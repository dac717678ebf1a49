import Samgr.Manager.Machine
import Samgr.Schedule.Refinement

/-! What a piece can do: which part of the manager it changes, and which pieces follow from
it. A proof about one part looks at the pieces that touch it and passes over the others. -/
namespace Samgr

inductive Part where
  | registry
  | listeners
  | starting
  | work
  | processes
  | reports
  | sched
  deriving DecidableEq, Repr

def Part.Same (m n : Manager) : Part → Prop
  | .registry => n.abilityMap = m.abilityMap ∧ n.history = m.history
  | .listeners => n.listenerMap = m.listenerMap ∧ n.subscribeCountMap = m.subscribeCountMap ∧
      n.abilityStatusDeath = m.abilityStatusDeath
  | .starting => n.startingAbilityMap = m.startingAbilityMap ∧ n.nextEntry = m.nextEntry ∧
      n.callbackCountMap = m.callbackCountMap
  | .work => n.workHandler = m.workHandler
  | .processes => n.systemProcessMap = m.systemProcessMap
  | .reports => n.reports = m.reports
  | .sched => n.sched = m.sched

/-- Only the listed parts differ. -/
def Keeps (parts : List Part) (m n : Manager) : Prop := ∀ part, part ∉ parts → part.Same m n

theorem Part.same_refl (m : Manager) (part : Part) : part.Same m m := by
  cases part <;> simp [Part.Same]

theorem Part.Same.trans {m n k : Manager} {part : Part} (first : part.Same m n)
    (second : part.Same n k) : part.Same m k := by
  cases part with
  | registry => exact ⟨second.1.trans first.1, second.2.trans first.2⟩
  | listeners =>
      exact ⟨second.1.trans first.1, second.2.1.trans first.2.1, second.2.2.trans first.2.2⟩
  | starting =>
      exact ⟨second.1.trans first.1, second.2.1.trans first.2.1, second.2.2.trans first.2.2⟩
  | _ => exact Eq.trans second first

namespace Keeps

variable {parts : List Part} {m n k : Manager}

theorem refl (m : Manager) : Keeps parts m m := fun part _ => part.same_refl m

theorem trans (first : Keeps parts m n) (second : Keeps parts n k) : Keeps parts m k :=
  fun part quiet => (first part quiet).trans (second part quiet)

theorem mono {more : List Part} (keeps : Keeps parts m n) (wider : parts ⊆ more) : Keeps more m n :=
  fun part quiet => keeps part fun member => quiet (wider member)

theorem registry (abilityMap : Registry) (history : List Registry) :
    Keeps [.registry] m { m with abilityMap, history } := by
  intro part quiet
  cases part <;> simp [Part.Same] at quiet ⊢

theorem listeners (listenerMap : Std.TreeMap Int (List SAListener)) (subscribeCountMap : Quota.Counts Int)
    (abilityStatusDeath : DeathRecipients) :
    Keeps [.listeners] m { m with listenerMap, subscribeCountMap, abilityStatusDeath } := by
  intro part quiet
  cases part <;> simp [Part.Same] at quiet ⊢

theorem starting (startingAbilityMap : Std.TreeMap Int AbilityItem)
    (callbackCountMap : Quota.Counts Int) (nextEntry : Nat) :
    Keeps [.starting] m { m with startingAbilityMap, callbackCountMap, nextEntry } := by
  intro part quiet
  cases part <;> simp [Part.Same] at quiet ⊢

theorem work (workHandler : TaskQueue Int WorkTask) : Keeps [.work] m { m with workHandler } := by
  intro part quiet
  cases part <;> simp [Part.Same] at quiet ⊢

theorem processes (systemProcessMap : Std.TreeMap String Nat) :
    Keeps [.processes] m { m with systemProcessMap } := by
  intro part quiet
  cases part <;> simp [Part.Same] at quiet ⊢

theorem reports (reports : List Report) : Keeps [.reports] m { m with reports } := by
  intro part quiet
  cases part <;> simp [Part.Same] at quiet ⊢

theorem sched (sched : Scheduler) : Keeps [.sched] m { m with sched } := by
  intro part quiet
  cases part <;> simp [Part.Same] at quiet ⊢

/-- The starting marks and the on-demand map belong to no part. -/
theorem none (startingProcessMap : Std.TreeMap String Int)
    (onDemandAbilityMap : Std.TreeMap Int String) :
    Keeps parts m { m with startingProcessMap, onDemandAbilityMap } := by
  intro part _
  cases part <;> simp [Part.Same]

end Keeps

namespace Manager

variable {env : Env} {m : Manager}

theorem exec_schedule {op : Scheduler.Op} (other : op ≠ .runRecoverTask) :
    m.exec env (.schedule op) =
      (if op.throughManager then m else { m with sched := (m.sched.exec env op).1 }, []) := by
  cases op with
  | runRecoverTask => exact absurd rfl other
  | _ => rfl

theorem insertAbility_keeps {sa : Int} {saInfo : SAInfo} {inserted : Manager}
    (result : m.insertAbility sa saInfo = some inserted) :
    Keeps [.registry, .work] m inserted := by
  simp only [insertAbility] at result
  split at result
  · cases result
  · cases result
    split
    · exact ((Keeps.work _).mono (by simp)).trans ((Keeps.registry _ _).mono (by simp))
    · exact (Keeps.registry _ _).mono (by simp)

theorem eraseAbility_keeps {sa : Int} {erased : Manager} (result : m.eraseAbility sa = some erased) :
    Keeps [.registry] m erased := by
  simp only [eraseAbility] at result
  split at result
  · cases result
    exact Keeps.registry _ _
  · cases result

theorem registerCallback_keeps {sa : Int} {callback : RemoteInterface} {callingPid : Int}
    {event : OnDemandEvent} {since : Nat} :
    Keeps [.starting] m (m.registerCallback sa callback callingPid event since).1 := by
  simp only [registerCallback]
  split
  · exact Keeps.starting _ _ _
  · split
    · exact Keeps.starting _ _ _
    · exact Keeps.starting _ _ _

theorem startOnDemandAbilityInner_keeps {procName : String} {sa : Int} {item : AbilityItem} :
    Keeps [.starting, .reports] m (m.startOnDemandAbilityInner procName sa item).1 := by
  simp only [startOnDemandAbilityInner]
  split
  · exact Keeps.refl m
  · exact ((Keeps.starting _ _ _).mono (by simp)).trans ((Keeps.reports _).mono (by simp))

theorem startOnDemandAbilityLocked_keeps {sa : Int} :
    Keeps [.starting, .reports] m (m.startOnDemandAbilityLocked sa).1 := by
  simp only [startOnDemandAbilityLocked]
  split
  · exact Keeps.refl m
  · exact ((Keeps.starting _ _ _).mono (by simp)).trans startOnDemandAbilityInner_keeps

theorem startNamedAbilityLocked_keeps {procName : String} {sa : Int} :
    Keeps [.starting, .reports] m (m.startNamedAbilityLocked procName sa) := by
  simp only [startNamedAbilityLocked]
  split
  · exact Keeps.refl m
  · exact startOnDemandAbilityInner_keeps

theorem doLoadOnDemandAbility_keeps {sa : Int} :
    Keeps [.starting, .reports] m (m.doLoadOnDemandAbility sa).1 := by
  simp only [doLoadOnDemandAbility]
  split
  · exact Keeps.refl m
  · split
    · exact Keeps.refl m
    · exact ((Keeps.starting _ _ _).mono (by simp)).trans startOnDemandAbilityLocked_keeps

theorem reportItem_keeps {sa : Int} {item : AbilityItem} {report : CallbackItem → Report} :
    Keeps [.starting, .reports] m (m.reportItem sa item report) := by
  intro part quiet
  cases part <;> simp [Part.Same, reportItem] at quiet ⊢

theorem notifySystemAbilityLoaded_keeps {sa : Int} {remoteObject : Nat} :
    Keeps [.starting, .reports] m (m.notifySystemAbilityLoaded sa remoteObject) := by
  simp only [notifySystemAbilityLoaded]
  split
  · exact Keeps.refl m
  · exact reportItem_keeps

theorem onStartSystemAbilityFail_keeps {sa errCode : Int} {process : String} :
    Keeps [.starting, .work, .reports] m (m.onStartSystemAbilityFail sa errCode process) := by
  have known : Keeps [.starting, .work, .reports] m
      (if sa ∈ m.onDemandAbilityMap then m
        else { m with onDemandAbilityMap := m.onDemandAbilityMap.insert sa process }) := by
    split
    · exact Keeps.refl m
    · exact Keeps.none _ _
  simp only [onStartSystemAbilityFail]
  split
  · exact known
  · exact known.trans (((Keeps.work _).mono (by simp)).trans (reportItem_keeps.mono (by simp)))

theorem failCallback_keeps {sa : Int} {failing : Option CallbackItem} :
    Keeps [.starting, .work] m (m.failCallback sa failing) := by
  cases failing with
  | none => exact Keeps.refl m
  | some found =>
      exact ((Keeps.work _).mono (by simp)).trans ((Keeps.starting _ _ _).mono (by simp))

theorem cleanCallbackForLoadFailed_keeps {sa : Int} {srcDeviceId : String}
    {callback : RemoteInterface} :
    Keeps [.starting, .work] m (m.cleanCallbackForLoadFailed sa srcDeviceId callback) := by
  simp only [cleanCallbackForLoadFailed]
  split
  · exact Keeps.refl m
  · split
    · exact failCallback_keeps.trans ((Keeps.starting _ _ _).mono (by simp))
    · exact failCallback_keeps.trans ((Keeps.starting _ _ _).mono (by simp))

theorem addOnDemandSystemAbilityInfo_keeps {sa : Int} {procName : String} :
    Keeps [.work] m (m.addOnDemandSystemAbilityInfo sa procName) := by
  simp only [addOnDemandSystemAbilityInfo]
  split
  · exact Keeps.refl m
  · split
    · exact (Keeps.none _ _).trans (Keeps.work _)
    · exact Keeps.none _ _

theorem notifyListenersAdded_keeps {sa : Int} :
    Keeps [.listeners, .reports] m (m.notifyListenersAdded sa) := by
  intro part quiet
  cases part <;> simp [Part.Same, notifyListenersAdded] at quiet ⊢

theorem notifyListenersRemoved_keeps {sa : Int} :
    Keeps [.listeners, .reports] m (m.notifyListenersRemoved sa) := by
  intro part quiet
  cases part <;> simp [Part.Same, notifyListenersRemoved] at quiet ⊢

theorem subscribeSystemAbility_keeps {sa : Int} {listener : RemoteInterface} {callingPid : Int} :
    Keeps [.listeners] m (m.subscribeSystemAbility sa listener callingPid).1 := by
  simp only [subscribeSystemAbility]
  split
  · exact Keeps.listeners _ _ _
  · split
    · exact Keeps.listeners _ _ _
    · exact Keeps.listeners _ _ _

theorem checkListenerNotify_keeps {sa : Int} {listener : RemoteInterface} :
    Keeps [.listeners, .work] m (m.checkListenerNotify sa listener) := by
  simp only [checkListenerNotify]
  split
  · exact ((Keeps.work _).mono (by simp)).trans ((Keeps.listeners _ _ _).mono (by simp))
  · exact (Keeps.listeners _ _ _).mono (by simp)

end Manager

/-- The parts that a piece can change. -/
def Piece.touches : Piece → List Part
  | .refreshListenerState _ _ | .subscribe _ _ _ | .unSubscribe _ _ | .unSubscribeDied _ =>
      [.listeners]
  | .insertAbility _ _ => [.registry, .work]
  | .eraseAbility _ | .eraseObject _ | .eraseDiedAbility _ => [.registry]
  | .removeCheckLoadedMsg _ | .sendSystemAbilityAddedMsg _ _ | .sendSystemAbilityRemovedMsg _
  | .sendLoadedSystemAbilityMsg _ _ | .sendCheckLoadedMsg _ | .addOnDemandSystemAbilityInfo _ _
  | .delTask _ => [.work]
  | .updateLimitDelayUnloadTime _ | .sendAbilityStateEvent _ _ | .beginLoad _ | .finishLoad _ _
  | .finishCheckStart _ _ _ _ | .processStarted _ | .lockForStop _ | .getAbnormallyDied _
  | .stopAbility _ _ | .clearPendingLoads _ | .restartDied _ _ | .removeRunningProcess _
  | .schedule _ => [.sched]
  | .registerCallback _ | .onAbilityCallbackDied _ => [.starting]
  | .startOnDemandAbility _ | .doLoadOnDemandAbility _ _ | .startNamedAbility _ _
  | .notifySystemAbilityLoaded _ _ => [.starting, .reports]
  | .onStartSystemAbilityFail _ _ _ => [.starting, .work, .reports]
  | .cleanCallback _ _ _ => [.starting, .work]
  | .findSystemAbilityNotify _ _ => [.listeners, .reports]
  | .checkListenerNotify _ _ => [.listeners, .work]
  | .notifyLoaded _ _ _ _ | .notifyLoadFail _ _ | .listenerNotify _ _ => [.reports]
  | .insertProcess _ _ | .eraseProcess _ => [.processes]
  | _ => []

open Manager in
theorem exec_keeps {env : Env} {m : Manager} (piece : Piece) :
    Keeps piece.touches m (m.exec env piece).1 := by
  cases piece with
  | refreshListenerState sa saInfo => exact Keeps.listeners _ _ _
  | insertAbility sa saInfo =>
      simp only [exec]
      split
      · exact Keeps.refl m
      · exact insertAbility_keeps (by assumption)
  | eraseAbility sa =>
      simp only [exec]
      split
      · exact Keeps.refl m
      · exact eraseAbility_keeps (by assumption)
  | eraseObject ability =>
      simp only [exec]
      split
      · exact Keeps.refl m
      · exact Keeps.registry _ _
  | eraseDiedAbility sa =>
      simp only [exec]
      split
      · exact Keeps.refl m
      · exact eraseAbility_keeps (by assumption)
  | removeCheckLoadedMsg sa => exact Keeps.work _
  | updateLimitDelayUnloadTime sa => exact Keeps.sched _
  | sendAbilityStateEvent sa event => exact Keeps.sched _
  | sendSystemAbilityAddedMsg sa remoteObject => exact Keeps.work _
  | sendSystemAbilityRemovedMsg sa => exact Keeps.work _
  | beginLoad load => exact Keeps.sched _
  | sendLoadedSystemAbilityMsg load remoteObject => exact Keeps.work _
  | registerCallback load =>
      simp only [exec]
      split
      · exact registerCallback_keeps
      · exact Keeps.starting _ _ _
  | startOnDemandAbility load => exact startOnDemandAbilityLocked_keeps
  | markStartingProcess load =>
      simp only [exec, markStartingProcess]
      split
      · exact Keeps.refl m
      · rename_i marked result
        split at result
        · cases result
        · cases result
          exact Keeps.none _ _
  | eraseStartingProcess procName => exact Keeps.none _ _
  | sendCheckLoadedMsg load => exact Keeps.work _
  | finishLoad load result => exact Keeps.sched _
  | doLoadOnDemandAbility processName sa => exact doLoadOnDemandAbility_keeps
  | finishCheckStart processName sa result isExist => exact Keeps.sched _
  | onStartSystemAbilityFail sa errCode process => exact onStartSystemAbilityFail_keeps
  | onAbilityCallbackDied remoteObject => exact Keeps.starting _ _ _
  | addOnDemandSystemAbilityInfo sa procName => exact addOnDemandSystemAbilityInfo_keeps
  | findSystemAbilityNotify sa added =>
      simp only [exec]
      split
      · exact Keeps.refl m
      · split
        · exact notifyListenersAdded_keeps
        · exact notifyListenersRemoved_keeps
  | notifySystemAbilityLoaded sa remoteObject => exact notifySystemAbilityLoaded_keeps
  | notifyLoaded sa remoteObject callback since => exact Keeps.reports _
  | notifyLoadFail sa callbackItem => exact Keeps.reports _
  | listenerNotify sa listener => exact Keeps.reports _
  | delTask sa => exact Keeps.work _
  | cleanCallback sa srcDeviceId callback => exact cleanCallbackForLoadFailed_keeps
  | startNamedAbility procName sa => exact startNamedAbilityLocked_keeps
  | subscribe sa listener callingPid => exact subscribeSystemAbility_keeps
  | checkListenerNotify sa listener => exact checkListenerNotify_keeps
  | unSubscribe sa listener => exact Keeps.listeners _ _ _
  | unSubscribeDied remoteObject => exact Keeps.listeners _ _ _
  | insertProcess processInfo procObject =>
      simp only [exec, insertProcess]
      split
      · exact Keeps.refl m
      · rename_i inserted result
        split at result
        · cases result
        · cases result
          exact Keeps.processes _
  | processStarted processInfo => exact Keeps.sched _
  | eraseProcess procObject =>
      simp only [exec]
      split
      · exact Keeps.refl m
      · exact Keeps.processes _
  | lockForStop processName =>
      simp only [exec]
      split
      · exact Keeps.refl m
      · exact Keeps.sched _
  | removeOnDemandSaInDiedProc processName => exact Keeps.none _ _
  | getAbnormallyDied processName => exact Keeps.sched _
  | stopAbility processName sa => exact Keeps.sched _
  | clearPendingLoads sa => exact Keeps.sched _
  | restartDied processName died =>
      simp only [exec]
      split
      · exact Keeps.refl m
      · exact Keeps.sched _
  | removeRunningProcess processName => exact Keeps.sched _
  | schedule op =>
      by_cases recovers : op = .runRecoverTask
      · subst recovers
        simp only [exec]
        split
        · exact Keeps.refl m
        · exact Keeps.sched _
      · rw [exec_schedule recovers]
        split
        · exact Keeps.refl m
        · exact Keeps.sched _
  | _ => exact Keeps.refl m

/-- The pieces that end a local load once its process has been taken care of. -/
def Loading.EndsWith (load : Loading) (made : Piece) : Prop :=
  made = .sendCheckLoadedMsg load ∨ ∃ result, made = .finishLoad load result

/-- A piece that can follow from another one, with what is known of the manager then. -/
def Piece.Follows (made : Piece) (m : Manager) : Piece → Prop
  | .refreshListenerState sa saInfo => made = .insertAbility sa saInfo
  | .insertAbility sa saInfo =>
      made = .removeCheckLoadedMsg sa ∨ made = .updateLimitDelayUnloadTime sa ∨
        made = .sendAbilityStateEvent sa .abilityLoadSuccessEvent ∨
        made = .sendSystemAbilityAddedMsg sa saInfo.remoteObj
  | .eraseAbility sa =>
      made = .sendAbilityStateEvent sa .abilityUnloadSuccessEvent ∨
        made = .sendSystemAbilityRemovedMsg sa
  | .eraseObject ability =>
      ∃ sa, m.findObject ability = some sa ∧ made = .sendSystemAbilityRemovedMsg sa
  | .eraseDiedAbility sa => made = .sendSystemAbilityRemovedMsg sa
  | .lockForLoad load => made = .beginLoad load ∨ made = .unlock (.process load.held)
  | .beginLoad load => made = .doLoadSystemAbility load
  | .doLoadSystemAbility load =>
      (∃ remoteObject, m.checkSystemAbility load.systemAbilityId = some remoteObject ∧
        (made = .sendLoadedSystemAbilityMsg load remoteObject ∨ made = .finishLoad load .errOk)) ∨
      m.checkSystemAbility load.systemAbilityId = none ∧ made = .registerCallback load
  | .registerCallback load =>
      (∃ result, made = .finishLoad load result) ∨ made = .startingSystemProcess load ∨
        load.isLocal = false ∧ (made = .unlock .onDemand ∨ made = .sendCheckLoadedMsg load)
  | .startingSystemProcess load =>
      made = .startOnDemandAbility load ∨ made = .markStartingProcess load ∨ load.EndsWith made
  | .markStartingProcess load => made = .startDynamicSystemProcess load ∨ load.EndsWith made
  | .startDynamicSystemProcess load =>
      (∃ procName, made = .eraseStartingProcess procName) ∨ load.EndsWith made
  | .isSystemAbilityUnloading sa => made = .checkSystemAbility sa
  | .checkSystemAbility sa => made = .lockForCheckStart (m.sched.ownProcessName sa) sa
  | .lockForCheckStart processName sa =>
      m.sched.beginCheckStart sa = none ∧
        (made = .checkOnDemand processName sa ∨ made = .unlock (.process processName))
  | .checkOnDemand processName sa =>
      made = .doLoadOnDemandAbility processName sa ∨
        made = .finishCheckStart processName sa true true
  | .doLoadOnDemandAbility processName sa =>
      ∃ result isExist, made = .finishCheckStart processName sa result isExist
  | .checkStartFail sa errCode _ => ∃ process, made = .onStartSystemAbilityFail sa errCode process
  | .checkLoaded sa name srcDeviceId callback =>
      m.checkSystemAbility sa = none ∧
        (made = .eraseStartingProcess name ∨ made = .cleanCallback sa srcDeviceId callback ∨
          made = .sendAbilityStateEvent sa .abilityLoadFailedEvent)
  | .subscribe sa listener _ => made = .checkListener sa listener
  | .checkListener sa listener => made = .checkListenerNotify sa listener
  | .insertProcess processInfo _ =>
      made = .eraseStartingProcess processInfo.processName ∨ made = .processStarted processInfo
  | .eraseProcess procObject =>
      ∃ procName, m.findProcess procObject = some procName ∧ made = .lockForStop procName
  | .lockForStop processName =>
      made = .removeOnDemandSaInDiedProc processName ∨ made = .getAbnormallyDied processName ∨
        made = .removeRunningProcess processName ∨ made = .unlock (.process processName)
  | .getAbnormallyDied processName =>
      (∃ sa ∈ (m.sched.process processName).saList, made = .stopAbility processName sa) ∨
        ∃ died, (∀ sa ∈ died, sa ∈ (m.sched.process processName).saList ∧ sa ∈ m.sched.abilityIds) ∧
          made = .restartDied processName died
  | .stopAbility processName sa =>
      sa ∈ m.sched.abilityIds ∧
        ((∃ load : Loading, load.held = processName ∧ load.systemAbilityId = sa ∧
          load.since = m.history.length ∧ made = .beginLoad load) ∨ made = .clearPendingLoads sa)
  | .restartDied processName died =>
      ∃ sa ∈ died, made = .eraseDiedAbility sa ∨
        ∃ load : Loading, load.held = processName ∧ load.systemAbilityId = sa ∧
          load.since = m.history.length ∧ made = .beginLoad load
  | .removeStuckProcess _ => ∃ procObject, made = .eraseProcess procObject
  | .schedule op => op = .runRecoverTask ∧ ∃ processName, made = .removeStuckProcess processName
  | _ => False

namespace Scheduler

theorem listed_of_beginReplay {env : Env} {s : Scheduler} {sa : Int}
    (replays : (s.beginReplay env sa).2 = true) : sa ∈ s.abilityIds := by
  by_contra absent
  simp [beginReplay, absent] at replays

theorem mem_of_getAbnormallyDied {env : Env} {s : Scheduler} {sas : List Int} {sa : Int}
    (died : sa ∈ (getAbnormallyDiedAbilityLocked env sas s).2) : sa ∈ sas := by
  induction sas generalizing s with
  | nil => cases died
  | cons head rest hypothesis =>
      simp only [getAbnormallyDiedAbilityLocked] at died
      split at died
      · rcases List.mem_cons.mp died with rfl | died
        · exact List.mem_cons_self
        · exact List.mem_cons_of_mem _ (hypothesis died)
      · exact List.mem_cons_of_mem _ (hypothesis died)

end Scheduler

theorem Loading.endsWith_of_mem {load : Loading} {result : ErrCode} {made : Piece}
    (member : made ∈ load.afterStart result) : load.EndsWith made := by
  simp only [Loading.afterStart] at member
  split at member <;> simp at member
  rcases member with rfl | rfl
  · exact Or.inl rfl
  · exact Or.inr ⟨result, rfl⟩

open Manager in
/-- Every piece that `exec` puts in the place of another one follows from it. -/
theorem exec_follows {env : Env} {m : Manager} {piece made : Piece}
    (member : made ∈ (m.exec env piece).2) : made.Follows m piece := by
  cases piece with
  | refreshListenerState sa saInfo =>
      simp only [exec] at member
      split at member <;> simp at member
      exact member
  | insertAbility sa saInfo =>
      simp only [exec] at member
      split at member <;> simp at member
      exact member
  | eraseAbility sa =>
      simp only [exec] at member
      split at member <;> simp at member
      exact member
  | eraseObject ability =>
      simp only [exec] at member
      split at member
      · simp at member
      · rename_i sa found
        simp only at member
        split at member <;> simp at member
        exact ⟨sa, found, member⟩
  | eraseDiedAbility sa =>
      simp only [exec] at member
      split at member <;> simp at member
      exact member
  | lockForLoad load =>
      simp only [exec, List.mem_cons, List.not_mem_nil, or_false] at member
      exact member
  | beginLoad load =>
      simp only [exec] at member
      split at member <;> simp at member
      exact member
  | doLoadSystemAbility load =>
      simp only [exec] at member
      split at member
      · rename_i remoteObject found
        refine Or.inl ⟨remoteObject, found, ?_⟩
        split at member <;> simp at member
        · exact Or.inr member
        · exact member
      · rename_i absent
        exact Or.inr ⟨absent, by simpa using member⟩
  | registerCallback load =>
      simp only [exec] at member
      split at member
      · simp only at member
        split at member <;> simp at member
        · exact Or.inl ⟨_, member⟩
        · exact Or.inr (Or.inl member)
      · rename_i remote
        simp at member
        rcases member with rfl | rfl | rfl | rfl
        · exact Or.inr (Or.inl rfl)
        · exact Or.inr (Or.inr ⟨by simpa using remote, Or.inl rfl⟩)
        · exact Or.inr (Or.inr ⟨by simpa using remote, Or.inr rfl⟩)
        · exact Or.inl ⟨_, rfl⟩
  | startingSystemProcess load =>
      simp only [exec] at member
      split at member
      · rcases List.mem_cons.mp member with rfl | later
        · exact Or.inl rfl
        · exact Or.inr (Or.inr (Loading.endsWith_of_mem later))
      · exact Or.inr (Or.inl (by simpa using member))
  | markStartingProcess load =>
      simp only [exec] at member
      split at member
      · exact Or.inr (Loading.endsWith_of_mem member)
      · exact Or.inl (by simpa using member)
  | startDynamicSystemProcess load =>
      simp only [exec] at member
      split at member
      · exact Or.inr (Loading.endsWith_of_mem member)
      · rcases List.mem_cons.mp member with rfl | later
        · exact Or.inl ⟨_, rfl⟩
        · exact Or.inr (Loading.endsWith_of_mem later)
  | isSystemAbilityUnloading sa =>
      simp only [exec] at member
      split at member <;> simp at member
      exact member
  | checkSystemAbility sa =>
      simp only [exec] at member
      split at member <;> simp at member
      exact member
  | lockForCheckStart processName sa =>
      simp only [exec] at member
      split at member
      · rename_i goesOn
        exact ⟨goesOn, by simpa using member⟩
      · simp at member
  | checkOnDemand processName sa =>
      simp only [exec] at member
      split at member <;> simp at member
      · exact Or.inl member
      · exact Or.inr member
  | doLoadOnDemandAbility processName sa =>
      simp only [exec, List.mem_singleton] at member
      exact ⟨_, _, member⟩
  | checkStartFail sa errCode callingProc =>
      simp only [exec] at member
      split at member
      · split at member <;> simp at member
        exact ⟨_, member⟩
      · simp at member
  | checkLoaded sa name srcDeviceId callback =>
      simp only [exec] at member
      split at member
      · rename_i absent
        exact ⟨absent, by simpa using member⟩
      · simp at member
  | subscribe sa listener callingPid =>
      simp only [exec] at member
      split at member <;> simp at member
      exact member
  | checkListener sa listener =>
      simp only [exec] at member
      split at member <;> simp at member
      exact member
  | insertProcess processInfo procObject =>
      simp only [exec] at member
      split at member <;> simp at member
      exact member
  | eraseProcess procObject =>
      simp only [exec] at member
      split at member
      · simp at member
      · rename_i procName found
        exact ⟨procName, found, by simpa using member⟩
  | lockForStop processName =>
      simp only [exec] at member
      split at member <;> simp at member
      exact member
  | getAbnormallyDied processName =>
      simp only [exec, List.mem_append, List.mem_map, List.mem_singleton] at member
      rcases member with ⟨sa, inside, rfl⟩ | rfl
      · exact Or.inl ⟨sa, inside, rfl⟩
      · refine Or.inr ⟨_, fun sa died => ?_, rfl⟩
        exact ⟨Scheduler.mem_of_getAbnormallyDied died, Scheduler.listed_of_getAbnormallyDied died⟩
  | stopAbility processName sa =>
      simp only [exec] at member
      split at member
      · rename_i replays
        refine ⟨Scheduler.listed_of_beginReplay replays, ?_⟩
        rcases List.mem_append.mp member with inside | inside
        · obtain ⟨request, -, inside⟩ := List.mem_flatMap.mp inside
          simp only [replay] at inside
          split at inside <;> simp at inside
          exact Or.inl ⟨_, rfl, rfl, rfl, inside⟩
        · exact Or.inr (by simpa using inside)
      · simp at member
  | restartDied processName died =>
      simp only [exec] at member
      split at member
      · simp at member
      · simp only at member
        split at member
        · obtain ⟨sa, inside, member⟩ := List.mem_flatMap.mp member
          simp only [restart, List.mem_cons, List.not_mem_nil, or_false] at member
          rcases member with rfl | rfl
          · exact ⟨sa, inside, Or.inl rfl⟩
          · exact ⟨sa, inside, Or.inr ⟨_, rfl, rfl, rfl, rfl⟩⟩
        · simp at member
  | removeStuckProcess processName =>
      simp only [exec, List.mem_map] at member
      obtain ⟨procObject, -, rfl⟩ := member
      exact ⟨procObject, rfl⟩
  | schedule op =>
      by_cases recovers : op = .runRecoverTask
      · subst recovers
        simp only [exec] at member
        split at member
        · simp at member
        · simp only at member
          split at member <;> simp at member
          exact ⟨rfl, _, member⟩
      · rw [exec_schedule recovers] at member
        simp at member
  | _ => simp [exec] at member

/-- The piece a call can begin with. -/
def Piece.Begins (piece : Piece) (m : Manager) : Call → Prop
  | .addSystemAbility sa ability isDistributed =>
      piece = .refreshListenerState sa ⟨ability, isDistributed⟩
  | .removeSystemAbility sa => piece = .eraseAbility sa
  | .removeObject ability => piece = .eraseObject ability
  | .load _ =>
      ∃ load : Loading, piece = .lockForLoad load ∧ load.systemAbilityId ∈ m.sched.abilityIds ∧
        load.held = m.sched.ownProcessName load.systemAbilityId ∧ load.since = m.history.length
  | .checkSystemAbility sa => piece = .isSystemAbilityUnloading sa
  | .onStartSystemAbilityFail sa errCode callingProc => piece = .checkStartFail sa errCode callingProc
  | .onAbilityCallbackDied remoteObject => piece = .onAbilityCallbackDied remoteObject
  | .addOnDemandSystemAbilityInfo sa procName => piece = .addOnDemandSystemAbilityInfo sa procName
  | .subscribeSystemAbility sa listener callingPid => piece = .subscribe sa listener callingPid
  | .unSubscribeSystemAbility sa listener => piece = .unSubscribe sa listener
  | .unSubscribeDied remoteObject => piece = .unSubscribeDied remoteObject
  | .addSystemProcess processInfo procObject => piece = .insertProcess processInfo procObject
  | .removeSystemProcess procObject => piece = .eraseProcess procObject
  | .schedule op => piece = .schedule op

theorem enter_begins {m : Manager} {call : Call} {piece : Piece} (member : piece ∈ m.enter call) :
    piece.Begins m call := by
  cases call with
  | load request =>
      simp only [Manager.enter] at member
      split at member
      · simp at member
      · split at member <;> simp at member
        rename_i known
        exact ⟨_, member, known.1, rfl, rfl⟩
  | removeObject ability => exact List.mem_singleton.mp member
  | onStartSystemAbilityFail sa errCode callingProc => exact List.mem_singleton.mp member
  | onAbilityCallbackDied remoteObject => exact List.mem_singleton.mp member
  | unSubscribeDied remoteObject => exact List.mem_singleton.mp member
  | removeSystemProcess procObject => exact List.mem_singleton.mp member
  | schedule op => exact List.mem_singleton.mp member
  | _ =>
      simp only [Manager.enter] at member
      split at member <;> simp at member
      exact member

namespace Machine

variable {x : Machine} {label : MachineLabel}

/-- The rule of `Threads` for the manager: an invariant of the manager and of the pieces in
flight is kept by a step when calls, pieces, tasks and the clock keep it. -/
theorem step_keeps (inv : Manager → List Piece → Prop)
    (perm : ∀ {m l l'}, l.Perm l' → inv m l → inv m l')
    (call : ∀ c l, inv x.shared l → inv x.shared (x.shared.enter c ++ l))
    (turn : ∀ env piece others, x.next label = some piece →
      x.enabled managerProgram piece = true → x.inFlight.Perm (piece :: others) →
      inv x.shared (piece :: others) →
      inv (x.shared.exec env piece).1 ((x.shared.exec env piece).2 ++ others))
    (dispatched : ∀ task rest l, x.shared.workHandler.pop = some (task, rest) →
      inv x.shared l → inv { x.shared with workHandler := rest } (task.pieces ++ l))
    (expired : ∀ handle, inv x.shared x.inFlight →
      inv { x.shared with workHandler := x.shared.workHandler.expire handle } x.inFlight)
    (start : inv x.shared x.inFlight) :
    inv (x.step label).shared (x.step label).inFlight := by
  refine Threads.Config.step_keeps (P := managerProgram) inv perm call turn ?_ ?_ start
  · intro pieces shared l taken good
    obtain ⟨⟨task, rest⟩, popped, same⟩ := Option.map_eq_some_iff.mp taken
    simp only [Prod.mk.injEq] at same
    obtain ⟨rfl, rfl⟩ := same
    exact dispatched task rest l popped good
  · intro action _ good
    cases action with
    | expire handle => exact expired handle good

theorem step_shared_of_next {piece : Piece} (next : x.next label = some piece) :
    ∃ env, (x.step label).shared = (x.shared.exec env piece).1 := by
  obtain ⟨env, -, -, same⟩ := Threads.Config.step_of_next next
  exact ⟨env, same⟩

/-- A step that runs no piece changes nothing of the manager but its queue. -/
theorem step_shared_of_none (none : x.next label = none) :
    ∃ workHandler, (x.step label).shared = { x.shared with workHandler } := by
  rcases Threads.Config.step_move (P := managerProgram) x label with same | ⟨c, -, result⟩ |
    ⟨env, piece, rest, next, -, -, -⟩ | ⟨env, piece, rest, first, last, next, -, -, -⟩ |
    ⟨pieces, shared, -, taken, result⟩ | ⟨action, -, result⟩
  · exact ⟨x.shared.workHandler, by rw [Machine.step, same]⟩
  · exact ⟨x.shared.workHandler, by rw [Machine.step, result]⟩
  · cases none.symm.trans next
  · cases none.symm.trans next
  · obtain ⟨⟨task, rest⟩, -, same⟩ := Option.map_eq_some_iff.mp taken
    simp only [Prod.mk.injEq] at same
    obtain ⟨-, rfl⟩ := same
    exact ⟨rest, by rw [Machine.step, result]⟩
  · cases action with
    | expire handle => exact ⟨x.shared.workHandler.expire handle, by rw [Machine.step, result]; rfl⟩

/-- An invariant of the manager that does not look at the queue is kept by every step if every
piece keeps it. -/
theorem step_shared {inv : Manager → Prop} (queue : ∀ {m workHandler}, inv m → inv { m with workHandler })
    (turn : ∀ {env m piece}, inv m → inv (m.exec env piece).1) (good : inv x.shared) :
    inv (x.step label).shared := by
  cases next : x.next label with
  | none =>
      obtain ⟨workHandler, same⟩ := step_shared_of_none next
      rw [same]
      exact queue good
  | some piece =>
      obtain ⟨env, same⟩ := step_shared_of_next next
      rw [same]
      exact turn good

theorem run_shared {inv : Manager → Prop} {saProfiles : List SaProfile} (labels : List MachineLabel)
    (queue : ∀ {m workHandler}, inv m → inv { m with workHandler })
    (turn : ∀ {env m piece}, inv m → inv (m.exec env piece).1) (start : inv (Manager.init saProfiles)) :
    inv (runFrom saProfiles labels).shared :=
  Runs.run_invariant (fun x : Machine => inv x.shared) (fun _ _ => step_shared queue turn) labels start

end Machine

end Samgr
