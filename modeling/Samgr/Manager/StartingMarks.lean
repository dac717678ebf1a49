import Samgr.Manager.Simulation

/-! The starting marks. A start looks for the process in one section, marks it in the next and
then asks init for it; a registration enters the process first and takes the mark away after.
So a process that is registered and marked has someone in flight who will take the mark away:
the registration that has not come to it, or the start that set it. Only a start that succeeds
when the registration has already passed leaves its mark for good. -/
namespace Samgr

/-- The piece changes the starting marks. -/
def Piece.marks : Piece → Bool
  | .markStartingProcess _ | .eraseStartingProcess _ => true
  | _ => false

/-- The piece asks init for the process, which its thread has marked. -/
def Piece.startsProcess (s : Scheduler) (procName : String) : Piece → Bool
  | .startDynamicSystemProcess load => s.ownProcessName load.systemAbilityId == procName
  | _ => false

/-- The piece has the mark of the process still to take away, or to leave. -/
def Piece.settlesMark (s : Scheduler) (procName : String) (piece : Piece) : Bool :=
  piece.startsProcess s procName || piece == .eraseStartingProcess procName

namespace Manager

variable {env : Env} {m : Manager} {procName : String}

/-- Registered, and marked as starting. -/
def RunningMarked (m : Manager) (procName : String) : Prop :=
  procName ∈ m.startingProcessMap ∧ procName ∈ m.systemProcessMap

instance : Decidable (m.RunningMarked procName) :=
  inferInstanceAs (Decidable (_ ∧ _))

section Marks

theorem insertAbility_marks {sa : Int} {saInfo : SAInfo} {inserted : Manager}
    (result : m.insertAbility sa saInfo = some inserted) :
    inserted.startingProcessMap = m.startingProcessMap := by
  simp only [insertAbility] at result
  split at result
  · cases result
  · cases result
    split <;> rfl

theorem eraseAbility_marks {sa : Int} {erased : Manager} (result : m.eraseAbility sa = some erased) :
    erased.startingProcessMap = m.startingProcessMap := by
  simp only [eraseAbility] at result
  split at result
  · cases result
    rfl
  · cases result

theorem registerCallback_marks {sa : Int} {callback : RemoteInterface} {callingPid : Int}
    {event : OnDemandEvent} {since : Nat} :
    (m.registerCallback sa callback callingPid event since).1.startingProcessMap =
      m.startingProcessMap := by
  simp only [registerCallback]
  split
  · rfl
  · split <;> rfl

theorem startOnDemandAbilityInner_marks {name : String} {sa : Int} {item : AbilityItem} :
    (m.startOnDemandAbilityInner name sa item).1.startingProcessMap = m.startingProcessMap := by
  simp only [startOnDemandAbilityInner]
  split <;> rfl

theorem startOnDemandAbilityLocked_marks {sa : Int} :
    (m.startOnDemandAbilityLocked sa).1.startingProcessMap = m.startingProcessMap := by
  simp only [startOnDemandAbilityLocked]
  split
  · rfl
  · exact startOnDemandAbilityInner_marks

theorem startNamedAbilityLocked_marks {name : String} {sa : Int} :
    (m.startNamedAbilityLocked name sa).startingProcessMap = m.startingProcessMap := by
  simp only [startNamedAbilityLocked]
  split
  · rfl
  · exact startOnDemandAbilityInner_marks

theorem doLoadOnDemandAbility_marks {sa : Int} :
    (m.doLoadOnDemandAbility sa).1.startingProcessMap = m.startingProcessMap := by
  simp only [doLoadOnDemandAbility]
  split
  · rfl
  · split
    · rfl
    · exact startOnDemandAbilityLocked_marks

theorem onStartSystemAbilityFail_marks {sa errCode : Int} {process : String} :
    (m.onStartSystemAbilityFail sa errCode process).startingProcessMap = m.startingProcessMap := by
  simp only [onStartSystemAbilityFail]
  split <;> split <;> rfl

theorem cleanCallbackForLoadFailed_marks {sa : Int} {srcDeviceId : String}
    {callback : RemoteInterface} :
    (m.cleanCallbackForLoadFailed sa srcDeviceId callback).startingProcessMap =
      m.startingProcessMap := by
  have failed : ∀ failing : Option CallbackItem,
      (m.failCallback sa failing).startingProcessMap = m.startingProcessMap := by
    intro failing
    cases failing <;> rfl
  simp only [cleanCallbackForLoadFailed]
  split
  · rfl
  · split
    · exact failed _
    · exact failed _

theorem checkListenerNotify_marks {sa : Int} {listener : RemoteInterface} :
    (m.checkListenerNotify sa listener).startingProcessMap = m.startingProcessMap := by
  simp only [checkListenerNotify]
  split <;> rfl

/-- Only a start and those who take a mark away change the marks. -/
theorem exec_startingProcessMap (piece : Piece) (other : piece.marks = false) :
    (m.exec env piece).1.startingProcessMap = m.startingProcessMap := by
  cases piece with
  | markStartingProcess load => cases other
  | eraseStartingProcess name => cases other
  | insertAbility sa saInfo =>
      simp only [exec]
      split
      · rfl
      · exact insertAbility_marks (by assumption)
  | eraseAbility sa =>
      simp only [exec]
      split
      · rfl
      · exact eraseAbility_marks (by assumption)
  | eraseDiedAbility sa =>
      simp only [exec]
      split
      · rfl
      · exact eraseAbility_marks (by assumption)
  | registerCallback load =>
      simp only [exec]
      split
      · exact registerCallback_marks
      · rfl
  | startOnDemandAbility load => exact startOnDemandAbilityLocked_marks
  | startNamedAbility name sa => exact startNamedAbilityLocked_marks
  | doLoadOnDemandAbility name sa => exact doLoadOnDemandAbility_marks
  | onStartSystemAbilityFail sa errCode process => exact onStartSystemAbilityFail_marks
  | cleanCallback sa srcDeviceId callback => exact cleanCallbackForLoadFailed_marks
  | checkListenerNotify sa listener => exact checkListenerNotify_marks
  | insertProcess processInfo procObject =>
      simp only [exec, insertProcess]
      split
      · rfl
      · rename_i inserted result
        split at result
        · cases result
        · cases result
          rfl
  | schedule op =>
      by_cases recovers : op = .runRecoverTask
      · subst recovers
        simp only [exec]
        split <;> rfl
      · rw [exec_schedule recovers]
        split <;> rfl
  | subscribe sa listener callingPid =>
      simp only [exec, subscribeSystemAbility]
      split
      · rfl
      · split <;> rfl
  | addOnDemandSystemAbilityInfo sa name =>
      simp only [exec, addOnDemandSystemAbilityInfo]
      split
      · rfl
      · split <;> rfl
  | findSystemAbilityNotify sa added =>
      simp only [exec]
      split
      · rfl
      · split <;> rfl
  | notifySystemAbilityLoaded sa remoteObject =>
      simp only [exec, notifySystemAbilityLoaded]
      split <;> rfl
  | eraseObject ability =>
      simp only [exec]
      split <;> rfl
  | eraseProcess procObject =>
      simp only [exec]
      split <;> rfl
  | lockForStop name =>
      simp only [exec]
      split <;> rfl
  | restartDied name died =>
      simp only [exec]
      split <;> rfl
  | _ => rfl

end Marks

/-- Every registered process that carries a mark has someone in flight who will take it away,
or is about to leave it. -/
def MarksEnd (m : Manager) (pieces : List Piece) : Prop :=
  ∀ procName, m.RunningMarked procName → ∃ piece ∈ pieces, piece.settlesMark m.sched procName = true

theorem mem_eraseStartingProcess {name : String} :
    procName ∈ (m.eraseStartingProcess name).startingProcessMap ↔
      name ≠ procName ∧ procName ∈ m.startingProcessMap := by
  simp [eraseStartingProcess, Std.TreeMap.mem_erase]

theorem mem_markStartingProcess {name : String} {sa : Int} {marked : Manager}
    (result : m.markStartingProcess name sa = some marked) :
    procName ∈ marked.startingProcessMap ↔ name = procName ∨ procName ∈ m.startingProcessMap := by
  simp only [markStartingProcess] at result
  split at result
  · cases result
  · cases result
    simp [Std.TreeMap.mem_insert]

theorem sched_markStartingProcess {name : String} {sa : Int} {marked : Manager}
    (result : m.markStartingProcess name sa = some marked) :
    marked.sched = m.sched ∧ marked.systemProcessMap = m.systemProcessMap := by
  simp only [markStartingProcess] at result
  split at result
  · cases result
  · cases result
    exact ⟨rfl, rfl⟩

/-- No piece but the registration makes a process registered. -/
theorem mem_systemProcessMap_of_exec {piece : Piece}
    (other : ∀ processInfo procObject, piece = .insertProcess processInfo procObject →
      processInfo.processName ≠ procName)
    (running : procName ∈ (m.exec env piece).1.systemProcessMap) :
    procName ∈ m.systemProcessMap := by
  by_cases touches : Part.processes ∈ piece.touches
  · cases piece with
    | insertProcess processInfo procObject =>
        simp only [exec, insertProcess] at running
        split at running
        · exact running
        · rename_i inserted result
          split at result
          · cases result
          · cases result
            simpa [Std.TreeMap.mem_insert, other processInfo procObject rfl] using running
    | eraseProcess procObject =>
        simp only [exec] at running
        split at running
        · exact running
        · simp only [eraseProcess, Std.TreeMap.mem_erase] at running
          exact running.2
    | _ => simp [Piece.touches] at touches
  · have same : (m.exec env piece).1.systemProcessMap = m.systemProcessMap :=
      exec_keeps piece .processes touches
    rwa [same] at running

namespace MarksEnd

variable {pieces others : List Piece} {piece : Piece}

theorem perm (same : pieces.Perm others) (good : m.MarksEnd pieces) : m.MarksEnd others := by
  intro procName marked
  obtain ⟨piece, member, settles⟩ := good procName marked
  exact ⟨piece, same.mem_iff.mp member, settles⟩

theorem more (good : m.MarksEnd others) : m.MarksEnd (pieces ++ others) := by
  intro procName marked
  obtain ⟨piece, member, settles⟩ := good procName marked
  exact ⟨piece, List.mem_append_right pieces member, settles⟩

/-- A piece that settles no mark of its own leaves the one that does in flight. -/
theorem later (good : m.MarksEnd (piece :: others))
    (plain : piece.settlesMark m.sched procName = false) (marked : m.RunningMarked procName) :
    ∃ other ∈ others, other.settlesMark m.sched procName = true := by
  obtain ⟨other, member, settles⟩ := good procName marked
  rcases List.mem_cons.mp member with rfl | member
  · rw [plain] at settles
    cases settles
  · exact ⟨other, member, settles⟩

theorem exec (good : m.MarksEnd (piece :: others))
    (own : ∀ sa, (m.exec env piece).1.sched.ownProcessName sa = m.sched.ownProcessName sa)
    (goes : ∀ load, piece = .startDynamicSystemProcess load → env.serviceControl m.sched.now = 0 →
      m.RunningMarked (m.sched.ownProcessName load.systemAbilityId) →
      .eraseStartingProcess (m.sched.ownProcessName load.systemAbilityId) ∈ others) :
    (m.exec env piece).1.MarksEnd ((m.exec env piece).2 ++ others) := by
  have settlesAfter : ∀ {procName : String} {other : Piece},
      other.settlesMark (m.exec env piece).1.sched procName = other.settlesMark m.sched procName := by
    intro procName other
    cases other <;> simp [Piece.settlesMark, Piece.startsProcess, own]
  have waits : ∀ {procName : String}, piece.settlesMark m.sched procName = false →
      m.RunningMarked procName → ∃ other ∈ (m.exec env piece).2 ++ others,
        other.settlesMark (m.exec env piece).1.sched procName = true := by
    intro procName plain marked
    obtain ⟨other, member, settles⟩ := good.later plain marked
    exact ⟨other, List.mem_append_right _ member, settlesAfter.trans settles⟩
  rintro procName ⟨marked, running⟩
  cases piece with
  | eraseStartingProcess name =>
      have before := mem_eraseStartingProcess.mp marked
      exact waits (by simpa [Piece.settlesMark, Piece.startsProcess] using before.1) ⟨before.2, running⟩
  | markStartingProcess load =>
      cases result : m.markStartingProcess (m.sched.ownProcessName load.systemAbilityId)
          load.systemAbilityId with
      | none =>
          simp only [Manager.exec, result] at marked running
          exact waits rfl ⟨marked, running⟩
      | some after =>
          have same := sched_markStartingProcess result
          simp only [Manager.exec, result] at marked running
          rw [same.2] at running
          rcases (mem_markStartingProcess result).mp marked with rfl | before
          · -- the start that has set the mark comes next in its thread
            refine ⟨.startDynamicSystemProcess load, by simp [Manager.exec, result], ?_⟩
            simp [Manager.exec, result, Piece.settlesMark, Piece.startsProcess, same.1]
          · exact waits rfl ⟨before, running⟩
  | startDynamicSystemProcess load =>
      have before : m.RunningMarked procName := ⟨marked, running⟩
      by_cases mine : m.sched.ownProcessName load.systemAbilityId = procName
      · subst mine
        by_cases started : env.serviceControl m.sched.now = 0
        · refine ⟨_, List.mem_append_right _ (goes load rfl started before), ?_⟩
          simp [Piece.settlesMark]
        · refine ⟨.eraseStartingProcess (m.sched.ownProcessName load.systemAbilityId), ?_, ?_⟩
          · simp [Manager.exec, started]
          · simp [Piece.settlesMark]
      · exact waits (by simpa [Piece.settlesMark, Piece.startsProcess] using mine) before
  | insertProcess processInfo procObject =>
      by_cases mine : processInfo.processName = procName
      · subst mine
        cases result : m.insertProcess processInfo.processName procObject with
        | none =>
            simp only [Manager.exec, result] at marked running
            exact waits rfl ⟨marked, running⟩
        | some inserted =>
            -- the registration takes the mark away in its next section
            refine ⟨.eraseStartingProcess processInfo.processName, ?_, ?_⟩
            · simp [Manager.exec, result]
            · simp [Piece.settlesMark]
      · have before : procName ∈ m.systemProcessMap := by
          refine mem_systemProcessMap_of_exec ?_ running
          rintro _ _ same
          cases same
          exact mine
        rw [exec_startingProcessMap _ rfl] at marked
        exact waits rfl ⟨marked, before⟩
  | _ =>
      have before : procName ∈ m.systemProcessMap := by
        refine mem_systemProcessMap_of_exec (fun _ _ same => ?_) running
        cases same
      rw [exec_startingProcessMap _ rfl] at marked
      exact waits rfl ⟨marked, before⟩

end MarksEnd

end Manager

namespace Machine

open Threads.Config

variable {x : Machine} {label : MachineLabel} {procName : String}

/-- A START that succeeds while its process is registered and marked leaves the registration
the mark to take away. -/
def marksGo (x : Machine) (label : MachineLabel) : Bool :=
  match label, x.next label with
  | .run _ env, some (.startDynamicSystemProcess load) =>
      let procName := x.shared.sched.ownProcessName load.systemAbilityId
      env.serviceControl x.shared.sched.now != 0 || !decide (x.shared.RunningMarked procName) ||
        decide (.eraseStartingProcess procName ∈ x.inFlight)
  | _, _ => true

/-- The label sets the starting mark of the process. -/
def setsMark (procName : String) (x : Machine) (label : MachineLabel) : Bool :=
  match x.next label with
  | some (.markStartingProcess load) =>
      x.shared.sched.ownProcessName load.systemAbilityId == procName &&
        decide (procName ∉ x.shared.startingProcessMap)
  | _ => false

/-- The label answers a load of the process's ability that the process is already starting. -/
def alreadyStarting (procName : String) (x : Machine) (label : MachineLabel) : Bool :=
  match x.next label with
  | some (.markStartingProcess load) =>
      x.shared.sched.ownProcessName load.systemAbilityId == procName &&
        decide (procName ∈ x.shared.startingProcessMap)
  | _ => false

/-- The label removes the process from the registered ones. -/
def dies (procName : String) (x : Machine) (label : MachineLabel) : Bool :=
  match x.next label with
  | some (.eraseProcess procObject) => x.shared.findProcess procObject == some procName
  | _ => false

/-- A start of the process has set its mark and has no answer from init yet. -/
def startInFlight (procName : String) (x : Machine) : Bool :=
  x.inFlight.any fun piece => piece.startsProcess x.shared.sched procName

/-- A process does not die between the two sections of its registration, unless the mark is
that of a start still under way. -/
def deathsWait (x : Machine) (label : MachineLabel) : Bool :=
  match x.next label with
  | some (.eraseProcess procObject) =>
      (x.shared.findProcess procObject).all fun procName =>
        decide (procName ∉ x.shared.startingProcessMap) ||
          decide (.eraseStartingProcess procName ∉ x.inFlight) || x.startInFlight procName
  | _ => true

/-- No start and no registration of the process is in flight that still has its mark to settle. -/
def MarkSettled (procName : String) (x : Machine) : Prop :=
  ∀ piece ∈ x.inFlight, piece.settlesMark x.shared.sched procName = false

instance : Decidable (x.MarkSettled procName) :=
  inferInstanceAs (Decidable (∀ piece ∈ x.inFlight, piece.settlesMark x.shared.sched procName = false))

theorem ownProcessName_exec {first : Scheduler} {m : Manager} {env : Env} {piece : Piece}
    {others : List Piece} (sound : Sound first m (piece :: others)) (sa : Int) :
    (m.exec env piece).1.sched.ownProcessName sa = m.sched.ownProcessName sa := by
  have same : Chart.SameLayout m.sched.chart (m.exec env piece).1.sched.chart :=
    Manager.exec_sameLayout (sound.listed piece List.mem_cons_self)
  exact congrFun same.own sa

theorem goes_of_marksGo {client : Option Nat} {env : Env} {load : Loading} {others : List Piece}
    (go : x.marksGo (.run client env) = true)
    (next : x.next (.run client env) = some (.startDynamicSystemProcess load))
    (opened : x.inFlight.Perm (.startDynamicSystemProcess load :: others))
    (started : env.serviceControl x.shared.sched.now = 0)
    (marked : x.shared.RunningMarked (x.shared.sched.ownProcessName load.systemAbilityId)) :
    .eraseStartingProcess (x.shared.sched.ownProcessName load.systemAbilityId) ∈ others := by
  have flying : Piece.eraseStartingProcess (x.shared.sched.ownProcessName load.systemAbilityId) ∈
      x.inFlight := by
    simpa [marksGo, next, started, marked] using go
  rcases List.mem_cons.mp (opened.mem_iff.mp flying) with same | member
  · cases same
  · exact member

/-- What a whole run keeps: the layout of the scheduler, and that marks end. -/
def Ending (first : Scheduler) (m : Manager) (pieces : List Piece) : Prop :=
  Sound first m pieces ∧ m.MarksEnd pieces

theorem step_marksEnd {first : Scheduler} (go : x.marksGo label = true)
    (good : Ending first x.shared x.inFlight) :
    Ending first (x.step label).shared (x.step label).inFlight := by
  refine ⟨step_sound label good.1, ?_⟩
  refine step_keeps_input (P := managerProgram) Manager.MarksEnd ?_ ?_ ?_ ?_ ?_ good.2
  · exact fun same held => held.perm same
  · exact fun call pieces held => held.more
  · rintro client env piece others rfl next opened held
    have sound : Sound first x.shared (piece :: others) :=
      { good.1 with
        listed := fun other member => good.1.listed other (opened.mem_iff.mpr member) }
    refine held.exec (ownProcessName_exec sound) ?_
    rintro load rfl started marked
    exact goes_of_marksGo go next opened started marked
  · intro pieces shared l taken held
    obtain ⟨⟨task, rest⟩, -, same⟩ := Option.map_eq_some_iff.mp taken
    simp only [Prod.mk.injEq] at same
    obtain ⟨rfl, rfl⟩ := same
    exact fun procName marked => held.more procName marked
  · intro action _ held
    cases action with
    | expire handle => exact fun procName marked => held procName marked

theorem marksEnd_init (saProfiles : List SaProfile) :
    Ending (Scheduler.init saProfiles) (init saProfiles).shared (init saProfiles).inFlight := by
  refine ⟨runFrom_sound saProfiles [], fun procName marked => ?_⟩
  exact absurd marked.1 Std.TreeMap.not_mem_emptyc

/-- Without a label that sets the mark of the process, the process stays unmarked. -/
theorem unmarked_step (calm : x.setsMark procName label = false)
    (unmarked : procName ∉ x.shared.startingProcessMap) :
    procName ∉ (x.step label).shared.startingProcessMap := by
  cases next : x.next label with
  | none =>
      obtain ⟨workHandler, same⟩ := step_shared_of_none next
      rwa [same]
  | some piece =>
      obtain ⟨env, same⟩ := step_shared_of_next next
      rw [same]
      by_cases marks : piece.marks = true
      · cases piece with
        | eraseStartingProcess name =>
            exact fun marked => unmarked (Manager.mem_eraseStartingProcess.mp marked).2
        | markStartingProcess load =>
            have other : x.shared.sched.ownProcessName load.systemAbilityId ≠ procName := by
              simpa [setsMark, next, unmarked] using calm
            cases result : x.shared.markStartingProcess
                (x.shared.sched.ownProcessName load.systemAbilityId) load.systemAbilityId with
            | none => simpa [Manager.exec, result] using unmarked
            | some after =>
                simp only [Manager.exec, result]
                rw [Manager.mem_markStartingProcess result]
                simp [other, unmarked]
        | _ => cases marks
      · rw [Manager.exec_startingProcessMap piece (by simpa using marks)]
        exact unmarked

theorem not_alreadyStarting_of_unmarked (unmarked : procName ∉ x.shared.startingProcessMap) :
    x.alreadyStarting procName label = false := by
  simp only [alreadyStarting]
  split
  · simp [unmarked]
  · rfl

theorem running_of_findProcess {m : Manager} {procObject : Nat}
    (found : m.findProcess procObject = some procName) : procName ∈ m.systemProcessMap := by
  obtain ⟨entry, hit, rfl⟩ := Option.map_eq_some_iff.mp found
  have member : (entry.1, entry.2) ∈ m.systemProcessMap.toList := List.mem_of_find?_eq_some hit
  have known : m.systemProcessMap[entry.1]? = some entry.2 :=
    Std.TreeMap.mem_toList_iff_getElem?_eq_some.mp member
  exact Std.TreeMap.mem_iff_isSome_getElem?.mpr (by rw [known]; rfl)

/-- A process that dies while no start of it is under way is unmarked. -/
theorem unmarked_of_death (good : x.shared.MarksEnd x.inFlight) (wait : x.deathsWait label = true)
    (death : x.dies procName label = true) (calm : x.startInFlight procName = false) :
    procName ∉ x.shared.startingProcessMap := by
  intro marked
  simp only [dies] at death
  split at death
  · rename_i procObject next
    have found : x.shared.findProcess procObject = some procName := by simpa using death
    obtain ⟨piece, member, settles⟩ := good procName ⟨marked, running_of_findProcess found⟩
    have still : piece.startsProcess x.shared.sched procName = false := by
      simpa using List.any_eq_false.mp calm piece member
    obtain rfl : piece = .eraseStartingProcess procName := by
      simpa [Piece.settlesMark, still] using settles
    -- the registration has not come to the mark, so the process may not die here
    have free : Piece.eraseStartingProcess procName ∉ x.inFlight := by
      simpa [deathsWait, next, found, marked, calm] using wait
    exact free member
  · cases death

theorem not_setsMark_of_dies (death : x.dies procName label = true) (name : String) :
    x.setsMark name label = false := by
  simp only [dies] at death
  split at death
  · rename_i procObject next
    simp [setsMark, next]
  · cases death

/-- In a run in which every START that succeeds for a registered and marked process leaves the
registration the mark to take away, and no process dies between the two sections of its
registration, a process is not registered and marked once its calls have ended; and after its
death no load is told that it is already starting before a new start has marked it. -/
theorem starting_marks_end (saProfiles : List SaProfile) (labels : List MachineLabel)
    (guarded : Runs.Guarded step
      (fun x label => x.marksGo label = true ∧ x.deathsWait label = true) (init saProfiles) labels)
    (procName : String) :
    (∀ before, before <+: labels → (runFrom saProfiles before).MarkSettled procName →
      ¬ (runFrom saProfiles before).shared.RunningMarked procName) ∧
    ∀ before death later label, (before ++ death :: later) ++ [label] <+: labels →
      (runFrom saProfiles before).dies procName death = true →
      (runFrom saProfiles before).startInFlight procName = false →
      Runs.Guarded step (fun x label => x.setsMark procName label = false)
        (runFrom saProfiles (before ++ [death])) later →
      (runFrom saProfiles (before ++ death :: later)).alreadyStarting procName label = false := by
  have ending : ∀ before, before <+: labels → Ending (Scheduler.init saProfiles)
      (runFrom saProfiles before).shared (runFrom saProfiles before).inFlight := by
    rintro before ⟨after, rfl⟩
    exact Runs.guarded_invariant
      (fun x : Machine => Ending (Scheduler.init saProfiles) x.shared x.inFlight)
      (fun _ _ go good => step_marksEnd go.1 good) (Runs.guarded_append.mp guarded).1
      (marksEnd_init saProfiles)
  refine ⟨fun before ahead settled marked => ?_, fun before death later label ahead died calm unset => ?_⟩
  · obtain ⟨piece, member, settles⟩ := (ending before ahead).2 procName marked
    rw [settled piece member] at settles
    cases settles
  · have split : before ++ death :: later = (before ++ [death]) ++ later := by simp
    obtain ⟨rest, rfl⟩ := ahead
    have wait : (runFrom saProfiles before).deathsWait death = true := by
      rw [List.append_assoc, List.append_assoc] at guarded
      exact (Runs.guarded_append.mp guarded).2.1.2
    have unmarked := unmarked_of_death (ending before ⟨death :: (later ++ ([label] ++ rest)), by simp⟩).2
      wait died calm
    refine not_alreadyStarting_of_unmarked ?_
    rw [split, runFrom, Runs.run_append]
    refine Runs.guarded_invariant (fun x : Machine => procName ∉ x.shared.startingProcessMap)
      (fun _ _ => unmarked_step) unset ?_
    rw [Runs.run_append]
    exact unmarked_step (not_setsMark_of_dies died procName) unmarked

/-- Ability 1 is asked for, its process starts and registers, and is to be removed. -/
def startOne : List MachineLabel :=
  [.call (.load (Scheduler.localLoad 1 7 70))] ++ runs 0 10 ++
    [.call (.addSystemProcess ⟨"host", 100, 1000⟩ 3)] ++ runs 1 3 ++ [.call (.removeSystemProcess 3)]

/-- Another load comes after the death, up to the test of the mark. -/
def askAgain : List MachineLabel :=
  runs 2 7 ++ [.call (.load (Scheduler.localLoad 1 8 80))] ++ runs 3 5

theorem startOne_marks_end : ¬ (runFrom hostOfOne startOne).shared.RunningMarked "host" ∧
    (runFrom hostOfOne (startOne ++ .run (some 2) {} :: askAgain)).alreadyStarting "host"
      (.run (some 3) {}) = false := by
  have ends := starting_marks_end hostOfOne
    ((startOne ++ .run (some 2) {} :: askAgain) ++ [.run (some 3) {}]) (by decide +kernel) "host"
  refine ⟨ends.1 startOne ?_ (by decide +kernel), ?_⟩
  · exact (List.prefix_append _ _).trans (List.prefix_append _ _)
  · exact ends.2 startOne _ askAgain _ (List.prefix_refl _) (by decide +kernel) (by decide +kernel)
      (by decide +kernel)

/-- The process registers between the test for it and the mark of a start. -/
def lateMark : List MachineLabel :=
  [.call (.load (Scheduler.localLoad 1 7 70))] ++ runs 0 5 ++
    [.call (.addSystemProcess ⟨"host", 100, 1000⟩ 3)] ++ runs 1 2 ++ runs 0 5 ++ runs 1 1

theorem late_mark_outlives_start :
    ¬ ∀ (saProfiles : List SaProfile) (labels : List MachineLabel) (procName : String),
      (runFrom saProfiles labels).inFlight = [] →
      ¬ (runFrom saProfiles labels).shared.RunningMarked procName := by
  intro always
  have unmarked := always hostOfOne lateMark "host" (by decide +kernel)
  revert unmarked
  decide +kernel

end Machine

end Samgr
