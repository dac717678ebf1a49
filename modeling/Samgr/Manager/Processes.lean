import Samgr.Manager.Simulation

/-! The three views of a running process: the manager's map of registered processes, the
state of its context, and the list of running processes. They agree once the calls that
registered and removed the process have sent their events, unless an event comes after the
map has changed again, or a second registration brings another pid. -/
namespace Samgr

namespace Chart

variable {P : Change → Prop} {x y : Chart} {processName : String}

/-- What a path that neither starts nor stops the process leaves of it. -/
structure SameProcess (processName : String) (x y : Chart) : Prop where
  stopped : y.proc processName = .notStarted ↔ x.proc processName = .notStarted
  ident : y.ident processName = x.ident processName
  entries : entriesOf processName y.running = entriesOf processName x.running

theorem SameProcess.refl (x : Chart) : SameProcess processName x x := ⟨Iff.rfl, rfl, rfl⟩

theorem SameProcess.trans {z : Chart} (first : SameProcess processName x y)
    (second : SameProcess processName y z) : SameProcess processName x z :=
  ⟨second.stopped.trans first.stopped, second.ident.trans first.ident,
    second.entries.trans first.entries⟩

theorem Step.sameProcess {c : Change} (step : Step x y c)
    (onlyStops : ∀ toState, c = .process processName toState → toState = .stopping)
    (quiet : c ≠ .enroll processName) : SameProcess processName x y := by
  cases c with
  | process name toState =>
      obtain ⟨enterable, -, rfl⟩ := step
      by_cases own : name = processName
      · subst own
        obtain rfl := onlyStops toState rfl
        have before : x.proc name = .started := by
          simpa [SystemProcessState.canEnter] using enterable
        exact ⟨by simp [before], rfl, rfl⟩
      · exact ⟨by simp [Function.update_of_ne (Ne.symm own)], rfl, rfl⟩
  | enroll name =>
      obtain ⟨who, running, elsewhere, rfl⟩ := step
      have other : processName ≠ name := fun same => quiet (by rw [same])
      exact ⟨Iff.rfl, by simp [Function.update_of_ne other], elsewhere processName other⟩
  | transit sa fromState toState => obtain ⟨-, -, -, -, -, rfl⟩ := step; exact ⟨Iff.rfl, rfl, rfl⟩
  | countFail sa => obtain ⟨-, -, rfl⟩ := step; exact ⟨Iff.rfl, rfl, rfl⟩
  | dropTimers => obtain ⟨timer, -, rfl⟩ := step; exact ⟨Iff.rfl, rfl, rfl⟩
  | pend sa request => obtain ⟨-, rfl⟩ := step; exact ⟨Iff.rfl, rfl, rfl⟩
  | resetLoad sa => obtain ⟨-, rfl⟩ := step; exact ⟨Iff.rfl, rfl, rfl⟩
  | pendUnload sa => obtain ⟨-, rfl⟩ := step; exact ⟨Iff.rfl, rfl, rfl⟩
  | resetUnload sa => obtain ⟨-, rfl⟩ := step; exact ⟨Iff.rfl, rfl, rfl⟩
  | clearPended sa => cases step; exact ⟨Iff.rfl, rfl, rfl⟩
  | startTimer sa => cases step; exact ⟨Iff.rfl, rfl, rfl⟩
  | handle sa request => cases step; exact ⟨Iff.rfl, rfl, rfl⟩

theorem Path.sameProcess (path : Path P x y)
    (onlyStops : ∀ toState, P (.process processName toState) → toState = .stopping)
    (quiet : ¬ P (.enroll processName)) : SameProcess processName x y := by
  refine path.keeps (SameProcess processName x) ?_ (.refl x)
  intro z w c allowed step same
  refine same.trans (step.sameProcess ?_ ?_)
  · rintro toState rfl
    exact onlyStops toState allowed
  · rintro rfl
    exact quiet allowed

theorem LateLoad.sameProcess {sa : Int} (late : LateLoad sa x y) : SameProcess processName x y := by
  cases late with
  | same unchanged => rw [unchanged]; exact .refl x
  | refused listed empty failed => rw [failed]; exact ⟨Iff.rfl, rfl, rfl⟩
  | moved listed before positive after => rw [after]; exact ⟨Iff.rfl, rfl, rfl⟩

end Chart

open Chart

/-- The piece sends the started event of the process. -/
def Piece.starts (processName : String) : Piece → Bool
  | .processStarted info => info.processName == processName
  | _ => false

/-- The started event of the process finds it not started, or with the pid and uid it brings. -/
def Scheduler.startFits (s : Scheduler) (info : ProcessInfo) : Bool :=
  (s.process info.processName).state == .notStarted ||
    (s.process info.processName).pid == info.pid && (s.process info.processName).uid == info.uid

/-- The pieces that write to the state of the process, its ids or its entry in the list. -/
def Piece.updatesProcess (processName : String) : Piece → Bool
  | .processStarted info => info.processName == processName
  | .lockForStop name | .removeRunningProcess name => name == processName
  | _ => false

namespace Scheduler

variable {env : Env} {s : Scheduler} {processName : String}

theorem sameProcess_of_op {op : Op} (own : op.throughManager = false) :
    (∀ toState, OpChange s op (.process processName toState) → toState = .stopping) ∧
      ¬ OpChange s op (.enroll processName) := by
  cases op with
  | load request => cases own
  | checkStart sa => cases own
  | abilityEvent sa event => cases own
  | processEvent info event => cases own
  | unload request => cases request <;> exact ⟨nofun, nofun⟩
  | unloadProcess name => exact ⟨fun _ change => change.2, nofun⟩
  | startProcessTask =>
      constructor
      · rintro toState ⟨task, rest, -, change⟩
        cases task with
        | tryUnloadAllSystemAbility name => exact change.2
        | _ => exact change.elim
      · rintro ⟨task, rest, -, change⟩
        cases task <;> exact change.elim
  | stepUnloadEvent =>
      constructor
      · rintro toState (change | ⟨sa, -, change⟩)
        · cases change
        · exact change.elim
      · rintro (change | ⟨sa, -, change⟩)
        · cases change
        · exact change.elim
  | runRecoverTask =>
      constructor
      · rintro toState ⟨sa, rest, -, change⟩
        cases change
      · rintro ⟨sa, rest, -, change⟩
        cases change
  | _ => exact ⟨nofun, nofun⟩

variable {info : ProcessInfo}

/-- The started event of a process that has not started and is not listed. -/
theorem sendProcessStarted_fresh (env : Env) (known : info.processName ∈ s.processNames)
    (stopped : (s.process info.processName).state = .notStarted)
    (absent : entriesOf info.processName s.runningProcessList = []) :
    let t := (s.sendProcessStateEvent env info .processStartedEvent).1
    (t.process info.processName).state = .started ∧
      entriesOf info.processName t.runningProcessList = [t.systemProcessInfo info.processName] := by
  have unlisted : s.runningProcessList.any (fun entry => entry.processName == info.processName) =
      false := by
    simpa [entriesOf, List.filter_eq_nil_iff] using absent
  have absent : List.filter (fun entry => entry.processName == info.processName)
      s.runningProcessList = [] := absent
  simp [sendProcessStateEvent, known, handleProcessStartedEventLocked, setProcess, stopped,
    processStateTransitionLocked, SystemProcessState.canEnter, addRunningProcessLocked,
    notifyProcessStarted, notifyAll, systemProcessInfo, unlisted, entriesOf, absent]

/-- The started event of a process that has started only notes the pid and uid. -/
theorem sendProcessStarted_running (known : info.processName ∈ s.processNames)
    (running : (s.process info.processName).state ≠ .notStarted) :
    s.sendProcessStateEvent env info .processStartedEvent =
      (s.setProcess info.processName fun context =>
        { context with pid := info.pid, uid := info.uid }, .errInvalidValue) := by
  cases state : (s.process info.processName).state with
  | notStarted => exact absurd state running
  | started => simp [sendProcessStateEvent, known, handleProcessStartedEventLocked, setProcess, state]
  | stopping => simp [sendProcessStateEvent, known, handleProcessStartedEventLocked, setProcess, state]

/-- After initialisation no process has started. -/
theorem init_notStarted (saProfiles : List SaProfile) (processName : String) :
    ((init saProfiles).process processName).state = .notStarted ∧
      (init saProfiles).runningProcessList = [] := by
  have keeps : ∀ s : Scheduler,
      (s.process processName).state = .notStarted ∧ s.runningProcessList = [] →
      ((saProfiles.foldl initStateContext s).process processName).state = .notStarted ∧
        (saProfiles.foldl initStateContext s).runningProcessList = [] := by
    induction saProfiles with
    | nil => exact fun s good => good
    | cons saProfile rest hypothesis =>
        intro s good
        refine hypothesis _ ?_
        simp only [initStateContext]
        split
        · exact good
        · refine ⟨?_, ?_⟩
          · by_cases own : processName = saProfile.process
            · subst own
              split <;> simpa [setProcess] using good.1
            · split <;> simpa [setProcess, own] using good.1
          · split <;> exact good.2
  exact keeps {} ⟨rfl, rfl⟩

/-- The transition to NOT_STARTED leaves the list to the end of the event. -/
theorem stopTransition_frame (env : Env) (running : (s.process processName).state ≠ .notStarted) :
    let t := (s.processStateTransitionLocked (enterNotStarted env) processName .notStarted).1
    (t.process processName).state = .notStarted ∧ t.runningProcessList = s.runningProcessList := by
  simp [processStateTransitionLocked, SystemProcessState.canEnter, running, enterNotStarted,
    leaveProcess, notifyProcessStopped, notifyAll, emit, setProcess]

theorem errOk_of_stopped (stopped : (s.process info.processName).state = .notStarted)
    (known : info.processName ∈ s.processNames) :
    (s.sendProcessStateEvent env info .processStartedEvent).2 = .errOk := by
  simp [sendProcessStateEvent, known, handleProcessStartedEventLocked, setProcess, stopped,
    processStateTransitionLocked, SystemProcessState.canEnter]

/-- An event that is answered with an error changes nothing, if a started event fits. -/
theorem sendProcessStateEvent_error {event : ProcessStateEvent}
    (fits : event = .processStartedEvent → s.startFits info = true)
    (error : (s.sendProcessStateEvent env info event).2 ≠ .errOk) :
    (s.sendProcessStateEvent env info event).1 = s := by
  by_cases known : info.processName ∈ s.processNames
  case neg => simp [sendProcessStateEvent, known]
  cases event with
  | processStartedEvent =>
      have fits := fits rfl
      by_cases running : (s.process info.processName).state = .notStarted
      · exact absurd (errOk_of_stopped running known) error
      · rw [sendProcessStarted_running known running]
        have same : (s.process info.processName).pid = info.pid ∧
            (s.process info.processName).uid = info.uid := by
          simpa [startFits, running] using fits
        rw [← same.1, ← same.2]
        simp [setProcess]
  | processStoppedEvent =>
      cases state : (s.process info.processName).state with
      | notStarted => simp [sendProcessStateEvent, known, handleProcessStoppedEventLocked, state]
      | started =>
          refine absurd ?_ error
          simp [sendProcessStateEvent, known, handleProcessStoppedEventLocked, state,
            processStateTransitionLocked, SystemProcessState.canEnter]
      | stopping =>
          refine absurd ?_ error
          simp [sendProcessStateEvent, known, handleProcessStoppedEventLocked, state,
            processStateTransitionLocked, SystemProcessState.canEnter]

/-- An event leaves the context and the list alone whenever it is answered with an error,
exactly if it is not a started event that does not fit. -/
theorem error_changes_nothing_iff {event : ProcessStateEvent}
    (known : info.processName ∈ s.processNames) :
    ((s.sendProcessStateEvent env info event).2 ≠ .errOk →
      (s.sendProcessStateEvent env info event).1.process info.processName =
          s.process info.processName ∧
        (s.sendProcessStateEvent env info event).1.runningProcessList = s.runningProcessList) ↔
    (event = .processStartedEvent → s.startFits info = true) := by
  constructor
  · rintro unchanged rfl
    by_cases running : (s.process info.processName).state = .notStarted
    · simp [startFits, running]
    · rw [sendProcessStarted_running known running] at unchanged
      have same := congrArg (fun context => (context.pid, context.uid)) (unchanged nofun).1
      simp only [setProcess, Function.update_self, Prod.mk.injEq] at same
      simp [startFits, same.1, same.2]
  · intro fits error
    rw [sendProcessStateEvent_error fits error]
    exact ⟨rfl, rfl⟩

end Scheduler

namespace Manager

variable {env : Env} {m : Manager} {piece : Piece} {processName : String}

theorem sameProcess_of_piece (plain : piece.updatesProcess processName = false) :
    (∀ toState, piece.Change m.sched (.process processName toState) → toState = .stopping) ∧
      ¬ piece.Change m.sched (.enroll processName) := by
  cases piece with
  | processStarted info =>
      have other : info.processName ≠ processName := by simpa [Piece.updatesProcess] using plain
      constructor
      · rintro toState (change | change) <;> cases change
        exact absurd rfl other
      · rintro (change | change) <;> cases change
        exact other rfl
  | lockForStop name =>
      have other : name ≠ processName := by simpa [Piece.updatesProcess] using plain
      constructor
      · intro toState change
        cases change
        exact absurd rfl other
      · intro change
        cases change
  | removeRunningProcess name =>
      have other : name ≠ processName := by simpa [Piece.updatesProcess] using plain
      constructor
      · intro toState change
        cases change
      · intro change
        cases change
        exact other rfl
  | sendAbilityStateEvent sa event => cases event <;> exact ⟨nofun, nofun⟩
  | beginLoad load =>
      constructor
      · rintro toState (change | ⟨request, change⟩)
        · exact change.elim
        · cases change
      · rintro (change | ⟨request, change⟩)
        · exact change.elim
        · cases change
  | stopAbility name sa =>
      constructor
      · rintro toState (change | change)
        · exact change.elim
        · cases change
      · rintro (change | change)
        · exact change.elim
        · cases change
  | schedule op =>
      constructor
      · rintro toState ⟨own, change⟩
        exact (Scheduler.sameProcess_of_op own).1 toState change
      · rintro ⟨own, change⟩
        exact (Scheduler.sameProcess_of_op own).2 change
  | _ => exact ⟨nofun, nofun⟩

theorem exec_sameProcess (listed : piece.Listed m.sched.abilityIds)
    (plain : piece.updatesProcess processName = false) :
    SameProcess processName m.sched.chart (m.exec env piece).1.sched.chart := by
  cases enters : piece.entersLoading with
  | some sa => exact (exec_late listed enters).sameProcess
  | none =>
      have quiet := sameProcess_of_piece (m := m) plain
      exact (exec_path listed enters).sameProcess quiet.1 quiet.2

/-- A running process stays so but for an accepted stop. -/
theorem running_of_exec (listed : piece.Listed m.sched.abilityIds)
    (other : piece ≠ .lockForStop processName)
    (running : (m.sched.process processName).state ≠ .notStarted) :
    ((m.exec env piece).1.sched.process processName).state ≠ .notStarted := by
  have running : m.sched.chart.proc processName ≠ .notStarted := running
  change (m.exec env piece).1.sched.chart.proc processName ≠ .notStarted
  by_cases plain : piece.updatesProcess processName = true
  case neg =>
    have same : SameProcess processName m.sched.chart (m.exec env piece).1.sched.chart :=
      exec_sameProcess listed (by simpa using plain)
    exact fun stopped => running (same.stopped.mp stopped)
  have started : ∀ toState, piece.Change m.sched (.process processName toState) →
      toState ≠ .notStarted := by
    intro toState change
    cases piece with
    | processStarted info =>
        rcases change with change | change <;> cases change
        exact nofun
    | lockForStop name =>
        obtain rfl : name = processName := by simpa [Piece.updatesProcess] using plain
        exact absurd rfl other
    | removeRunningProcess name => cases change
    | _ => cases plain
  have enters : piece.entersLoading = none := by cases piece <;> first | rfl | cases plain
  have path : Path (piece.Change m.sched) m.sched.chart (m.exec env piece).1.sched.chart :=
    exec_path listed enters
  refine path.keeps (fun z => z.proc processName ≠ .notStarted) ?_ running
  intro z w c allowed step before
  rcases step.frame.2.1 with same | ⟨name, toState, rfl⟩
  · rw [same]
    exact before
  · obtain ⟨-, -, rfl⟩ := step
    by_cases own : processName = name
    · subst own
      simpa using started toState allowed
    · simpa [Function.update_of_ne own] using before

end Manager

/-- The three views of a process say the same. -/
structure Manager.ViewsAgree (m : Manager) (processName : String) : Prop where
  started : processName ∈ m.systemProcessMap ↔ (m.sched.process processName).state ≠ .notStarted
  listed : processName ∈ m.systemProcessMap ↔
    (entriesOf processName m.sched.runningProcessList).length = 1
  unlisted : processName ∉ m.systemProcessMap ↔
    entriesOf processName m.sched.runningProcessList = []
  ident : ∀ entry ∈ m.sched.runningProcessList, entry.processName = processName →
    entry.pid = (m.sched.process processName).pid ∧ entry.uid = (m.sched.process processName).uid

namespace Machine

/-- A started event comes while the process is registered or about to be stopped, and fits;
a stopped event comes while the process is not registered or about to be started. -/
def processInOrder (processName : String) (x : Machine) (label : MachineLabel) : Bool :=
  match x.next label with
  | some (.processStarted info) =>
      info.processName != processName || x.shared.sched.startFits info &&
        (x.shared.systemProcessMap.contains processName ||
          x.inFlight.contains (.lockForStop processName))
  | some (.lockForStop name) =>
      name != processName || !x.shared.systemProcessMap.contains processName ||
        x.inFlight.any (Piece.starts processName)
  | _ => true

/-- The views of a process, up to the events that are still to be sent. -/
structure Roster (processName : String) (m : Manager) (pieces : List Piece) : Prop where
  registered : processName ∈ m.systemProcessMap →
    (m.sched.process processName).state ≠ .notStarted ∨ ∃ piece ∈ pieces, piece.starts processName
  removed : processName ∉ m.systemProcessMap →
    (m.sched.process processName).state = .notStarted ∨ .lockForStop processName ∈ pieces
  listed : (m.sched.process processName).state ≠ .notStarted →
    entriesOf processName m.sched.runningProcessList = [m.sched.systemProcessInfo processName]
  unlisted : (m.sched.process processName).state = .notStarted →
    entriesOf processName m.sched.runningProcessList = [] ∨
      .removeRunningProcess processName ∈ pieces ∧
        (entriesOf processName m.sched.runningProcessList).length ≤ 1
  leaving : .removeRunningProcess processName ∈ pieces →
    (m.sched.process processName).state = .notStarted

variable {first : Scheduler} {processName : String} {x : Machine} {label : MachineLabel}
  {piece : Piece} {others : List Piece} {env : Env}

theorem Roster.perm {m : Manager} {pieces : List Piece} (same : pieces.Perm others)
    (good : Roster processName m pieces) : Roster processName m others := by
  refine ⟨fun inside => ?_, fun outside => ?_, good.listed, fun stopped => ?_, fun leaves => ?_⟩
  · exact (good.registered inside).imp_right fun ⟨piece, member, starts⟩ =>
      ⟨piece, same.mem_iff.mp member, starts⟩
  · exact (good.removed outside).imp_right same.mem_iff.mp
  · exact (good.unlisted stopped).imp_right fun ⟨leaves, short⟩ => ⟨same.mem_iff.mp leaves, short⟩
  · exact good.leaving (same.mem_iff.mpr leaves)

/-- New pieces that do not end the entry of the process keep the views. -/
theorem Roster.append {m : Manager} {pieces made : List Piece} (good : Roster processName m pieces)
    (quiet : .removeRunningProcess processName ∉ made) : Roster processName m (made ++ pieces) := by
  refine ⟨fun inside => ?_, fun outside => ?_, good.listed, fun stopped => ?_, fun leaves => ?_⟩
  · exact (good.registered inside).imp_right fun ⟨piece, member, starts⟩ =>
      ⟨piece, List.mem_append_right made member, starts⟩
  · exact (good.removed outside).imp_right (List.mem_append_right made)
  · exact (good.unlisted stopped).imp_right fun ⟨leaves, short⟩ =>
      ⟨List.mem_append_right made leaves, short⟩
  · rcases List.mem_append.mp leaves with leaves | leaves
    · exact absurd leaves quiet
    · exact good.leaving leaves

/-- A piece that writes to none of the views takes nothing away. -/
theorem Roster.drop {m : Manager} (good : Roster processName m (piece :: others))
    (plain : piece.updatesProcess processName = false) : Roster processName m others := by
  have notStarts : piece.starts processName ≠ true := by
    intro starts
    cases piece <;> simp_all [Piece.starts, Piece.updatesProcess]
  refine ⟨fun inside => ?_, fun outside => ?_, good.listed, fun stopped => ?_, fun leaves => ?_⟩
  · refine (good.registered inside).imp_right ?_
    rintro ⟨other, member, starts⟩
    rcases List.mem_cons.mp member with rfl | member
    · exact absurd starts notStarts
    · exact ⟨other, member, starts⟩
  · refine (good.removed outside).imp_right fun member => ?_
    rcases List.mem_cons.mp member with rfl | member
    · simp [Piece.updatesProcess] at plain
    · exact member
  · refine (good.unlisted stopped).imp_right fun ⟨leaves, short⟩ => ⟨?_, short⟩
    rcases List.mem_cons.mp leaves with rfl | member
    · simp [Piece.updatesProcess] at plain
    · exact member
  · exact good.leaving (List.mem_cons_of_mem piece leaves)

/-- The views depend on what the chart says of the process; where its registration has changed,
an event that follows from it is in flight. -/
theorem Roster.transfer {m n : Manager} {pieces : List Piece} (good : Roster processName m pieces)
    (same : SameProcess processName m.sched.chart n.sched.chart)
    (inserted : processName ∈ n.systemProcessMap → processName ∈ m.systemProcessMap ∨
      ∃ piece ∈ pieces, piece.starts processName)
    (erased : processName ∉ n.systemProcessMap → processName ∉ m.systemProcessMap ∨
      .lockForStop processName ∈ pieces) :
    Roster processName n pieces := by
  have stopped : (n.sched.process processName).state = .notStarted ↔
      (m.sched.process processName).state = .notStarted := same.stopped
  have entries : entriesOf processName n.sched.runningProcessList =
      entriesOf processName m.sched.runningProcessList := same.entries
  have ident : n.sched.systemProcessInfo processName = m.sched.systemProcessInfo processName := by
    have pair : ((n.sched.process processName).pid, (n.sched.process processName).uid) =
        ((m.sched.process processName).pid, (m.sched.process processName).uid) := same.ident
    simp only [Prod.mk.injEq] at pair
    simp only [Scheduler.systemProcessInfo, pair]
  refine ⟨fun inside => ?_, fun outside => ?_, fun running => ?_, fun down => ?_, fun leaves => ?_⟩
  · rcases inserted inside with before | starts
    · exact (good.registered before).imp_left (mt stopped.mp)
    · exact Or.inr starts
  · rcases erased outside with before | stops
    · exact (good.removed before).imp_left stopped.mpr
    · exact Or.inr stops
  · rw [entries, ident]
    exact good.listed (mt stopped.mpr running)
  · rw [entries]
    exact good.unlisted (stopped.mp down)
  · exact stopped.mpr (good.leaving leaves)

theorem processMap_of_exec :
    (processName ∈ (x.shared.exec env piece).1.systemProcessMap →
      processName ∈ x.shared.systemProcessMap ∨
        ∃ made ∈ (x.shared.exec env piece).2, made.starts processName) ∧
    (processName ∉ (x.shared.exec env piece).1.systemProcessMap →
      processName ∉ x.shared.systemProcessMap ∨
        .lockForStop processName ∈ (x.shared.exec env piece).2) := by
  by_cases touched : Part.processes ∈ piece.touches
  case neg =>
    have kept : (x.shared.exec env piece).1.systemProcessMap = x.shared.systemProcessMap :=
      exec_keeps piece .processes touched
    rw [kept]
    exact ⟨Or.inl, Or.inl⟩
  cases piece with
  | insertProcess info procObject =>
      simp only [Manager.exec, Manager.insertProcess]
      by_cases full : x.shared.systemProcessMap.size ≥ MAX_SERVICES
      · simp only [full, if_true]
        exact ⟨Or.inl, Or.inl⟩
      · simp only [full, if_false]
        constructor
        · intro inside
          rcases Std.TreeMap.mem_insert.mp inside with same | before
          · exact Or.inr ⟨.processStarted info, by simp,
              by simpa [Piece.starts] using Std.LawfulEqCmp.eq_of_compare same⟩
          · exact Or.inl before
        · intro outside
          exact Or.inl fun before => outside (Std.TreeMap.mem_insert.mpr (Or.inr before))
  | eraseProcess procObject =>
      simp only [Manager.exec]
      split
      · exact ⟨Or.inl, Or.inl⟩
      · rename_i name found
        constructor
        · intro inside
          exact Or.inl (Std.TreeMap.mem_erase.mp inside).2
        · intro outside
          by_cases own : name = processName
          · exact Or.inr (by simp [own])
          · refine Or.inl fun before => outside (Std.TreeMap.mem_erase.mpr ⟨?_, before⟩)
            exact fun same => own (Std.LawfulEqCmp.eq_of_compare same)
  | _ => simp [Piece.touches] at touched

theorem removeRunning_of_made {m : Manager}
    (made : .removeRunningProcess processName ∈ (m.exec env piece).2) :
    piece = .lockForStop processName := by
  have follows := exec_follows made
  cases piece <;> simp [Piece.Follows, Loading.EndsWith] at follows
  case lockForStop name => rw [follows]

theorem roster_plain (sound : Sound first x.shared x.inFlight) (opened : x.inFlight.Perm (piece :: others))
    (plain : piece.updatesProcess processName = false)
    (good : Roster processName x.shared (piece :: others)) :
    Roster processName (x.shared.exec env piece).1 ((x.shared.exec env piece).2 ++ others) := by
  have listed : piece.Listed x.shared.sched.abilityIds :=
    sound.listed piece (opened.mem_iff.mpr List.mem_cons_self)
  have quiet : .removeRunningProcess processName ∉ (x.shared.exec env piece).2 := by
    intro made
    rw [removeRunning_of_made made] at plain
    simp [Piece.updatesProcess] at plain
  refine ((good.drop plain).append quiet).transfer (Manager.exec_sameProcess listed plain) ?_ ?_
  · intro inside
    refine (processMap_of_exec.1 inside).imp_right ?_
    rintro ⟨made, member, starts⟩
    exact ⟨made, List.mem_append_left _ member, starts⟩
  · intro outside
    exact (processMap_of_exec.2 outside).imp_right (List.mem_append_left _)

/-- The piece whose lock on the process is free has no entry of it to wait for. -/
theorem not_leaving (locked : x.Locked processName) (enabled : x.enabled managerProgram piece = true)
    (needs : x.shared.needs piece = some (.process processName))
    (opened : x.inFlight.Perm (piece :: others)) : .removeRunningProcess processName ∉ others := by
  intro leaves
  have member : .removeRunningProcess processName ∈ x.inFlight :=
    opened.mem_iff.mpr (List.mem_cons_of_mem piece leaves)
  exact locked.excludes enabled needs member rfl

theorem roster_started {info : ProcessInfo} (own : info.processName = processName)
    (known : processName ∈ x.shared.sched.processNames) (locked : x.Locked processName)
    (inOrder : x.processInOrder processName label = true)
    (next : x.next label = some (.processStarted info))
    (enabled : x.enabled managerProgram (.processStarted info) = true)
    (opened : x.inFlight.Perm (.processStarted info :: others))
    (good : Roster processName x.shared (.processStarted info :: others)) :
    Roster processName (x.shared.exec env (.processStarted info)).1 others := by
  subst own
  have stays : .removeRunningProcess info.processName ∉ others :=
    not_leaving locked enabled rfl opened
  simp only [processInOrder, next, bne_self_eq_false, Bool.false_or, Bool.and_eq_true,
    Bool.or_eq_true, Std.TreeMap.contains_iff_mem, List.contains_iff_mem] at inOrder
  obtain ⟨fits, order⟩ := inOrder
  have removed : info.processName ∉ x.shared.systemProcessMap →
      .lockForStop info.processName ∈ others := by
    intro outside
    have member := opened.mem_iff.mp (order.resolve_left outside)
    simpa using member
  by_cases stopped : (x.shared.sched.process info.processName).state = .notStarted
  · have absent : entriesOf info.processName x.shared.sched.runningProcessList = [] := by
      rcases good.unlisted stopped with absent | ⟨leaves, -⟩
      · exact absent
      · exact absurd (by simpa using leaves) stays
    obtain ⟨started, listed⟩ := Scheduler.sendProcessStarted_fresh env known stopped absent
    refine ⟨fun _ => Or.inl ?_, fun outside => Or.inr (removed outside), fun _ => listed, ?_, ?_⟩
    · exact fun down => nomatch started.symm.trans down
    · exact fun down => nomatch started.symm.trans down
    · exact fun leaves => absurd leaves stays
  · have same : (x.shared.sched.sendProcessStateEvent env info .processStartedEvent).1 =
        x.shared.sched := by
      refine Scheduler.sendProcessStateEvent_error (fun _ => fits) ?_
      rw [Scheduler.sendProcessStarted_running known stopped]
      exact nofun
    have kept : (x.shared.exec env (.processStarted info)).1 = x.shared := by
      simp only [Manager.exec, same]
    rw [kept]
    refine ⟨fun _ => Or.inl stopped, fun outside => Or.inr (removed outside), good.listed, ?_, ?_⟩
    · exact fun down => absurd down stopped
    · exact fun leaves => absurd leaves stays

theorem roster_stopped (known : processName ∈ x.shared.sched.processNames)
    (inOrder : x.processInOrder processName label = true)
    (next : x.next label = some (.lockForStop processName))
    (opened : x.inFlight.Perm (.lockForStop processName :: others))
    (good : Roster processName x.shared (.lockForStop processName :: others)) :
    Roster processName (x.shared.exec env (.lockForStop processName)).1
      ((x.shared.exec env (.lockForStop processName)).2 ++ others) := by
  simp only [processInOrder, next, bne_self_eq_false, Bool.false_or, Bool.or_eq_true,
    Bool.not_eq_true', List.any_eq_true] at inOrder
  have registered : processName ∈ x.shared.systemProcessMap →
      ∃ piece ∈ others, piece.starts processName := by
    intro inside
    obtain ⟨piece, member, starts⟩ := inOrder.resolve_left (by simpa using inside)
    rcases List.mem_cons.mp (opened.mem_iff.mp member) with rfl | member
    · cases starts
    · exact ⟨piece, member, starts⟩
  by_cases stopped : (x.shared.sched.process processName).state = .notStarted
  · simp only [Manager.exec, known, stopped, not_true_eq_false, or_true, if_true, List.nil_append]
    refine ⟨fun inside => Or.inr (registered inside), fun _ => Or.inl stopped, good.listed, ?_, ?_⟩
    · intro down
      refine (good.unlisted down).imp_right fun both => ⟨?_, both.2⟩
      simpa using both.1
    · exact fun _ => stopped
  · obtain ⟨down, list⟩ := Scheduler.stopTransition_frame env stopped
    have short : (entriesOf processName x.shared.sched.runningProcessList).length ≤ 1 := by
      rw [good.listed stopped]
      exact Nat.le_refl 1
    simp only [Manager.exec, known, stopped, not_true_eq_false, or_false, if_false]
    refine ⟨fun inside => Or.inr ?_, fun _ => Or.inl down, fun up => absurd down up, fun _ => ?_, ?_⟩
    · obtain ⟨piece, member, starts⟩ := registered inside
      exact ⟨piece, List.mem_append_right _ member, starts⟩
    · rw [list]
      exact Or.inr ⟨by simp, short⟩
    · exact fun _ => down

theorem entriesOf_eraseP {running : List SystemProcessInfo}
    (short : (entriesOf processName running).length ≤ 1) :
    entriesOf processName (running.eraseP fun info => info.processName == processName) = [] := by
  simp only [entriesOf] at *
  induction running with
  | nil => rfl
  | cons info running hypothesis =>
      by_cases own : info.processName = processName
      · simpa [own] using short
      · simp only [own, beq_iff_eq, not_false_eq_true, List.filter_cons_of_neg] at short
        simpa [own] using hypothesis short

theorem roster_unlisted (good : Roster processName x.shared (.removeRunningProcess processName :: others)) :
    Roster processName (x.shared.exec env (.removeRunningProcess processName)).1 others := by
  have stopped : (x.shared.sched.process processName).state = .notStarted :=
    good.leaving List.mem_cons_self
  have short : (entriesOf processName x.shared.sched.runningProcessList).length ≤ 1 := by
    rcases good.unlisted stopped with empty | ⟨-, short⟩
    · rw [empty]
      exact Nat.zero_le 1
    · exact short
  refine ⟨fun inside => ?_, fun _ => Or.inl stopped, fun up => absurd stopped up, ?_, ?_⟩
  · refine Or.inr ?_
    obtain ⟨piece, member, starts⟩ := (good.registered inside).resolve_left (not_not.mpr stopped)
    rcases List.mem_cons.mp member with rfl | member
    · cases starts
    · exact ⟨piece, member, starts⟩
  · exact fun _ => Or.inl (entriesOf_eraseP short)
  · exact fun _ => stopped

theorem roster_turn (sound : Sound first x.shared x.inFlight) (known : processName ∈ first.processNames)
    (locked : x.Locked processName) (inOrder : x.processInOrder processName label = true)
    (next : x.next label = some piece) (enabled : x.enabled managerProgram piece = true)
    (opened : x.inFlight.Perm (piece :: others))
    (good : Roster processName x.shared (piece :: others)) :
    Roster processName (x.shared.exec env piece).1 ((x.shared.exec env piece).2 ++ others) := by
  have known : processName ∈ x.shared.sched.processNames := by
    have names : x.shared.sched.processNames = first.processNames := sound.layout.names
    rw [names]
    exact known
  by_cases plain : piece.updatesProcess processName = false
  · exact roster_plain sound opened plain good
  · cases piece with
    | processStarted info =>
        have own : info.processName = processName := by simpa [Piece.updatesProcess] using plain
        exact roster_started own known locked inOrder next enabled opened good
    | lockForStop name =>
        obtain rfl : name = processName := by simpa [Piece.updatesProcess] using plain
        exact roster_stopped known inOrder next opened good
    | removeRunningProcess name =>
        obtain rfl : name = processName := by simpa [Piece.updatesProcess] using plain
        exact roster_unlisted good
    | _ => exact absurd rfl plain

theorem step_roster (sound : Sound first x.shared x.inFlight) (known : processName ∈ first.processNames)
    (locked : x.Locked processName) (inOrder : x.processInOrder processName label = true)
    (good : Roster processName x.shared x.inFlight) :
    Roster processName (x.step label).shared (x.step label).inFlight := by
  refine step_keeps (Roster processName) ?_ ?_ ?_ ?_ ?_ good
  · exact fun same roster => roster.perm same
  · intro call pieces roster
    refine roster.append fun member => ?_
    have begins : Piece.Begins (.removeRunningProcess processName) x.shared call :=
      enter_begins member
    cases call <;> grind [Piece.Begins]
  · intro env piece others next enabled opened roster
    exact roster_turn sound known locked inOrder next enabled opened roster
  · intro task rest pieces _ roster
    have quiet : .removeRunningProcess processName ∉ task.pieces := by
      cases task <;> simp [WorkTask.pieces]
    exact (roster.append quiet).transfer (.refl _) Or.inl Or.inl
  · intro handle roster
    exact roster.transfer (.refl _) Or.inl Or.inl

theorem run_roster {saProfiles : List SaProfile} {labels : List MachineLabel}
    (known : processName ∈ (Scheduler.init saProfiles).processNames)
    (guarded : Runs.Guarded step (fun x label => x.processInOrder processName label = true)
      (init saProfiles) labels) :
    Roster processName (runFrom saProfiles labels).shared (runFrom saProfiles labels).inFlight := by
  let first := Scheduler.init saProfiles
  have all : Sound first (runFrom saProfiles labels).shared (runFrom saProfiles labels).inFlight ∧
      (runFrom saProfiles labels).Locked processName ∧
      Roster processName (runFrom saProfiles labels).shared (runFrom saProfiles labels).inFlight := by
    refine Runs.guarded_invariant
      (fun x : Machine => Sound first x.shared x.inFlight ∧ x.Locked processName ∧
        Roster processName x.shared x.inFlight) ?_ guarded ?_
    · rintro x label inOrder ⟨sound, locked, roster⟩
      exact ⟨step_sound label sound, step_locked label locked,
        step_roster sound known locked inOrder roster⟩
    · refine ⟨runFrom_sound saProfiles [], runFrom_locked saProfiles [] processName, ?_⟩
      obtain ⟨stopped, empty⟩ := Scheduler.init_notStarted saProfiles processName
      refine ⟨fun inside => absurd inside Std.TreeMap.not_mem_emptyc, fun _ => Or.inl stopped,
        fun up => absurd stopped up, fun _ => Or.inl ?_, fun leaves => absurd leaves List.not_mem_nil⟩
      have list : (init saProfiles).shared.sched.runningProcessList = [] := empty
      rw [list]
      rfl
  exact all.2.2

theorem Roster.viewsAgree {m : Manager} {pieces : List Piece} (roster : Roster processName m pieces)
    (quiet : ∀ piece ∈ pieces, piece.updatesProcess processName = false) :
    m.ViewsAgree processName := by
  have up : processName ∈ m.systemProcessMap → (m.sched.process processName).state ≠ .notStarted := by
    intro inside
    refine (roster.registered inside).resolve_right ?_
    rintro ⟨piece, member, starts⟩
    have idle := quiet piece member
    cases piece <;> simp_all [Piece.starts, Piece.updatesProcess]
  have down : processName ∉ m.systemProcessMap → (m.sched.process processName).state = .notStarted := by
    intro outside
    refine (roster.removed outside).resolve_right fun member => ?_
    simpa [Piece.updatesProcess] using quiet _ member
  have empty : processName ∉ m.systemProcessMap →
      entriesOf processName m.sched.runningProcessList = [] := by
    intro outside
    refine (roster.unlisted (down outside)).resolve_right fun leaves => ?_
    simpa [Piece.updatesProcess] using quiet _ leaves.1
  have one : processName ∈ m.systemProcessMap →
      entriesOf processName m.sched.runningProcessList = [m.sched.systemProcessInfo processName] :=
    fun inside => roster.listed (up inside)
  refine ⟨⟨up, fun running => ?_⟩, ⟨fun inside => ?_, fun single => ?_⟩, ⟨empty, fun none => ?_⟩, ?_⟩
  · exact by_contra fun outside => running (down outside)
  · rw [one inside]
    rfl
  · by_contra outside
    rw [empty outside] at single
    cases single
  · intro inside
    rw [one inside] at none
    cases none
  · intro entry member own
    have found : entry ∈ entriesOf processName m.sched.runningProcessList := by
      simp [entriesOf, member, own]
    by_cases inside : processName ∈ m.systemProcessMap
    · rw [one inside, List.mem_singleton] at found
      rw [found]
      exact ⟨rfl, rfl⟩
    · rw [empty inside] at found
      cases found

/-- In a run in which the events of the process come in order: whenever no event of it is in
flight, the process is registered exactly when its context has left NOT_STARTED, and exactly
when it has one entry, with the pid and uid of the context, in the list of running processes;
and an event that is answered with an error changes nothing, exactly if it fits. -/
theorem process_views_agree (saProfiles : List SaProfile) (labels : List MachineLabel)
    (processName : String) (known : processName ∈ (Scheduler.init saProfiles).processNames)
    (guarded : Runs.Guarded step (fun x label => x.processInOrder processName label = true)
      (init saProfiles) labels) :
    let x := runFrom saProfiles labels
    let s := x.shared.sched
    ((∀ piece ∈ x.inFlight, piece.updatesProcess processName = false) →
      x.shared.ViewsAgree processName) ∧
    ∀ env info event, info.processName = processName →
      (((s.sendProcessStateEvent env info event).2 ≠ .errOk →
        (s.sendProcessStateEvent env info event).1.process info.processName =
            s.process info.processName ∧
          (s.sendProcessStateEvent env info event).1.runningProcessList = s.runningProcessList) ↔
      (event = .processStartedEvent → s.startFits info = true)) := by
  intro x s
  have names : s.processNames = (Scheduler.init saProfiles).processNames :=
    (runFrom_sound saProfiles labels).layout.names
  refine ⟨(run_roster known guarded).viewsAgree, ?_⟩
  rintro env info event rfl
  exact Scheduler.error_changes_nothing_iff (names ▸ known)

/-- The process registers, is removed and registers again with another pid. -/
def reregister : List MachineLabel :=
  [.call (.addSystemProcess ⟨"host", 100, 1000⟩ 3)] ++ runs 0 3 ++
    [.call (.removeSystemProcess 3)] ++ runs 1 8 ++
    [.call (.addSystemProcess ⟨"host", 200, 1000⟩ 4)] ++ runs 2 3

theorem reregister_views_agree :
    "host" ∈ (runFrom hostOfOne reregister).shared.systemProcessMap ∧
      (runFrom hostOfOne reregister).shared.ViewsAgree "host" :=
  ⟨by decide +kernel, (process_views_agree hostOfOne reregister "host" (by decide +kernel)
    (by decide +kernel)).1 (by decide +kernel)⟩

/-- The process registers a new object, with a new pid, before the death of the old one. -/
def registerTwice : List MachineLabel :=
  [.call (.addSystemProcess ⟨"host", 100, 1000⟩ 3)] ++ runs 0 3 ++
    [.call (.addSystemProcess ⟨"host", 200, 1000⟩ 4)] ++ runs 1 3

theorem second_registration_parts_list_and_context :
    ¬ ∀ (saProfiles : List SaProfile) (labels : List MachineLabel) (processName : String),
      processName ∈ (Scheduler.init saProfiles).processNames →
      let x := runFrom saProfiles labels
      let s := x.shared.sched
      (x.inFlight = [] → x.shared.ViewsAgree processName) ∧
      ∀ env info event, info.processName = processName →
        (s.sendProcessStateEvent env info event).2 ≠ .errOk →
        (s.sendProcessStateEvent env info event).1.process info.processName =
            s.process info.processName ∧
          (s.sendProcessStateEvent env info event).1.runningProcessList = s.runningProcessList := by
  intro always
  have views := (always hostOfOne registerTwice "host" (by decide +kernel)).1 (by decide +kernel)
  have same := views.ident ⟨"host", 100, 1000⟩ (by decide +kernel) rfl
  revert same
  decide +kernel

end Machine

end Samgr
