import Samgr.Manager.Ownership

/-! One load of an ability at a time. A load, a check-and-start and the stop of a process hold
the lock of the process, which has one holder; and in its holder's thread the last pieces of a
load come before whatever else the thread has to do. So while a load is past its check of the
registry, no event of the ability is delivered, its process is not stopped, and no other load
of it is as far. -/
namespace Samgr

/-- The piece belongs to a load or to a check-and-start of the ability that is past its check
of the registry and has not failed. -/
def Piece.headed (sa : Int) : Piece → Bool
  | .registerCallback load | .startingSystemProcess load | .startOnDemandAbility load
  | .markStartingProcess load | .startDynamicSystemProcess load | .sendCheckLoadedMsg load
  | .sendLoadedSystemAbilityMsg load _ => load.systemAbilityId == sa
  | .finishLoad load result => load.systemAbilityId == sa && result == .errOk
  | .doLoadOnDemandAbility _ id => id == sa
  | .finishCheckStart _ id result _ => id == sa && result
  | _ => false

/-- The pieces behind which the rest of a load may still wait in their thread. -/
def Piece.lasting : Piece → Bool
  | .startOnDemandAbility _ | .sendCheckLoadedMsg _ | .sendLoadedSystemAbilityMsg _ _
  | .eraseStartingProcess _ | .unlock _ => true
  | .startingSystemProcess load | .markStartingProcess load | .startDynamicSystemProcess load =>
      !load.isLocal
  | _ => false

namespace Machine

open Threads.Config

variable {first : Scheduler} {sa : Int} {x : Machine} {label : MachineLabel} {env : Env} {piece : Piece}
  {processName : String}

/-- Only the lasting pieces have pieces of a load behind them. -/
def InTurn (sa : Int) (x : Machine) : Prop :=
  Arranged (fun piece later => later.headed sa = true → piece.lasting = true) x

/-- The lock of the process has one holder at most. -/
def OneHolder (processName : String) (x : Machine) : Prop :=
  Exclusive managerProgram (.process processName) x

theorem pairwise_of_plain {pieces : List Piece} (plain : ∀ piece ∈ pieces, piece.headed sa = false) :
    pieces.Pairwise fun piece later => later.headed sa = true → piece.lasting = true := by
  refine List.Pairwise.imp_of_mem (fun {_ later} _ member _ headed => ?_)
    (List.pairwise_of_forall fun _ _ => True.intro)
  rw [plain later member] at headed
  cases headed

theorem afterStart_inTurn (load : Loading) (result : ErrCode) :
    (load.afterStart result).Pairwise fun piece later =>
      later.headed sa = true → piece.lasting = true := by
  simp only [Loading.afterStart]
  split <;> simp [Piece.lasting]

theorem made_inTurn {m : Manager} : (m.exec env piece).2.Pairwise fun piece later =>
    later.headed sa = true → piece.lasting = true := by
  cases piece with
  | doLoadSystemAbility load =>
      simp only [Manager.exec]
      split
      · split <;> simp [Piece.lasting]
      · simp
  | registerCallback load =>
      simp only [Manager.exec]
      split
      · split <;> simp
      · rename_i remote
        simp [Piece.lasting, remote]
  | startingSystemProcess load =>
      simp only [Manager.exec]
      split
      · exact List.pairwise_cons.mpr ⟨fun _ _ _ => rfl, afterStart_inTurn load _⟩
      · simp
  | markStartingProcess load =>
      simp only [Manager.exec]
      split
      · exact afterStart_inTurn load _
      · simp
  | startDynamicSystemProcess load =>
      simp only [Manager.exec]
      split
      · exact afterStart_inTurn load _
      · exact List.pairwise_cons.mpr ⟨fun _ _ _ => rfl, afterStart_inTurn load _⟩
  | checkOnDemand processName id =>
      simp only [Manager.exec]
      split <;> simp
  | doLoadOnDemandAbility processName id => simp [Manager.exec]
  | _ =>
      refine pairwise_of_plain fun made member => ?_
      have follows := exec_follows member
      grind [Piece.Follows, Piece.headed]

theorem lasting_of_made {m : Manager} (lasting : piece.lasting = true) {made : Piece}
    (member : made ∈ (m.exec env piece).2) : made.lasting = true := by
  cases piece with
  | startingSystemProcess load =>
      have remote : load.isLocal = false := by simpa [Piece.lasting] using lasting
      simp only [Manager.exec, Loading.afterStart, remote] at member
      split at member <;> simp at member <;> subst member <;> simp [Piece.lasting, remote]
  | markStartingProcess load =>
      have remote : load.isLocal = false := by simpa [Piece.lasting] using lasting
      simp only [Manager.exec, Loading.afterStart, remote] at member
      split at member <;> simp at member
      subst member
      simp [Piece.lasting, remote]
  | startDynamicSystemProcess load =>
      have remote : load.isLocal = false := by simpa [Piece.lasting] using lasting
      simp only [Manager.exec, Loading.afterStart, remote] at member
      split at member <;> simp at member
      subst member
      rfl
  | _ => simp [Manager.exec, Piece.lasting] at member lasting

theorem step_inTurn (good : x.InTurn sa) : (x.step label).InTurn sa := by
  refine step_arranged (P := managerProgram) good ?_ (fun env piece => made_inTurn) ?_ ?_
  · intro call
    refine pairwise_of_plain fun piece member => ?_
    have begins : piece.Begins x.shared call := enter_begins member
    cases call <;> grind [Piece.Begins, Piece.headed]
  · intro env piece later fits new member headed
    exact lasting_of_made (fits headed) member
  · intro pieces shared taken
    obtain ⟨⟨task, rest⟩, -, same⟩ := Option.map_eq_some_iff.mp taken
    simp only [Prod.mk.injEq] at same
    obtain ⟨rfl, -⟩ := same
    refine pairwise_of_plain fun piece member => ?_
    cases task <;> grind [WorkTask.pieces, Piece.headed]

theorem released_of_made {m : Manager} {made : Piece} (plain : piece.takesLock ≠ some processName)
    (member : made ∈ (m.exec env piece).2) : made.releases ≠ some (.process processName) := by
  have follows : made.Follows m piece := exec_follows member
  cases piece with
  | lockForLoad load =>
      rcases follows with rfl | rfl
      · simp [Piece.releases]
      · simpa [Piece.releases, Piece.takesLock] using plain
  | lockForCheckStart name id =>
      obtain ⟨-, rfl | rfl⟩ := follows
      · simp [Piece.releases]
      · simpa [Piece.releases, Piece.takesLock] using plain
  | lockForStop name =>
      rcases follows with rfl | rfl | rfl | rfl
      · simp [Piece.releases]
      · simp [Piece.releases]
      · simp [Piece.releases]
      · simpa [Piece.releases, Piece.takesLock] using plain
  | _ => grind [Piece.Follows, Loading.EndsWith, Piece.releases]

theorem step_oneHolder (good : x.OneHolder processName) : (x.step label).OneHolder processName := by
  refine step_exclusive (P := managerProgram) good ?_ ?_ ?_
  · intro call piece member
    have begins : piece.Begins x.shared call := enter_begins member
    change piece.releases ≠ some (.process processName)
    cases call <;> grind [Piece.Begins, Piece.releases]
  · intro env piece
    by_cases takes : piece.takesLock = some processName
    · refine Or.inr ?_
      cases piece with
      | lockForLoad load =>
          obtain rfl : load.held = processName := Option.some.inj takes
          exact ⟨rfl, by simp [managerProgram, Manager.exec, Piece.releases]⟩
      | lockForCheckStart name id =>
          obtain rfl : name = processName := Option.some.inj takes
          refine ⟨rfl, ?_⟩
          simp only [managerProgram, Manager.exec]
          split <;> simp [Piece.releases]
      | lockForStop name =>
          obtain rfl : name = processName := Option.some.inj takes
          refine ⟨rfl, ?_⟩
          simp only [managerProgram, Manager.exec]
          split <;> simp [Piece.releases]
      | _ => cases takes
    · exact Or.inl fun new member => released_of_made takes member
  · intro pieces shared taken
    obtain ⟨⟨task, rest⟩, -, same⟩ := Option.map_eq_some_iff.mp taken
    simp only [Prod.mk.injEq] at same
    obtain ⟨rfl, -⟩ := same
    intro piece member
    change piece.releases ≠ some (.process processName)
    cases task <;> grind [WorkTask.pieces, Piece.releases]

/-- The loads of an ability that are past their check run under the lock of its process. -/
theorem Housed.lockedBy (housed : Housed first sa x.inFlight) {other : Piece}
    (member : other ∈ x.inFlight) (headed : other.headed sa = true) :
    other.lockedBy = some (first.ownProcessName sa) := by
  have home := housed other member
  cases other <;> grind [Piece.headed, Piece.AtHome, Piece.loading, Piece.lockedBy]

/-- While an event of the ability can be delivered, no load of it is past its check. -/
theorem Housed.not_headed {event : AbilityStateEvent} (sound : Sound first x.shared x.inFlight)
    (housed : Housed first sa x.inFlight) (locked : x.Locked (first.ownProcessName sa))
    (known : sa ∈ first.abilityIds)
    (enabled : x.enabled managerProgram (.sendAbilityStateEvent sa event) = true) {other : Piece}
    (member : other ∈ x.inFlight) : other.headed sa = false := by
  have ids : x.shared.sched.abilityIds = first.abilityIds := sound.layout.ids
  have owner : x.shared.sched.ownProcessName sa = first.ownProcessName sa :=
    congrFun sound.layout.own sa
  have needs : x.shared.needs (.sendAbilityStateEvent sa event) =
      some (.process (first.ownProcessName sa)) := by
    simp [Manager.needs, ids, known, owner]
  by_contra headed
  have headed : other.headed sa = true := by simpa using headed
  exact locked.excludes enabled needs member (housed.lockedBy member headed)

/-- While a piece inside the lock of the ability's process runs behind which no load waits, no
other piece of a load of the ability is past the check. -/
theorem Housed.headed_alone (housed : Housed first sa x.inFlight)
    (locked : x.Locked (first.ownProcessName sa)) (single : x.OneHolder (first.ownProcessName sa))
    (inTurn : x.InTurn sa) (next : x.next label = some piece)
    (inside : piece.lockedBy = some (first.ownProcessName sa)) (last : piece.lasting = false)
    {other : Piece} (member : other ∈ x.inFlight) (headed : other.headed sa = true) :
    other = piece := by
  rcases locked.behind single inTurn next inside member (housed.lockedBy member headed) with
    same | ordered
  · exact same
  · rw [ordered headed] at last
    cases last

end Machine

end Samgr
