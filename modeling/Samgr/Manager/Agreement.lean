import Samgr.Manager.Lifecycle
import Samgr.Manager.Effects

/-! Registry and scheduler. A registered ability is up in the scheduler as soon as the calls
that registered it have delivered their load success; the one thing that can part the two is
the unload success of a removal that comes late, after the ability was registered again. -/
namespace Samgr

/-- The pieces of AddSystemAbility and RemoveSystemAbility for an ability. -/
def Piece.registers (sa : Int) : Piece → Bool
  | .refreshListenerState id _ | .insertAbility id _ | .removeCheckLoadedMsg id
  | .updateLimitDelayUnloadTime id | .sendAbilityStateEvent id .abilityLoadSuccessEvent
  | .sendSystemAbilityAddedMsg id _ | .eraseAbility id
  | .sendAbilityStateEvent id .abilityUnloadSuccessEvent | .sendSystemAbilityRemovedMsg id => id == sa
  | _ => false

/-- The piece is about to take the ability down with its process. -/
def Piece.Stops (saList : String → List Int) (sa : Int) : Piece → Prop
  | .getAbnormallyDied processName => sa ∈ saList processName
  | .stopAbility _ id => id = sa
  | _ => False

namespace Machine

/-- No process of the ability dies in the step. -/
def alive (sa : Int) (x : Machine) (label : MachineLabel) : Bool :=
  match x.next label with
  | some (.lockForStop processName) => !(x.shared.sched.process processName).saList.contains sa
  | _ => true

/-- An unload success comes while the ability is not registered, or before the load success of
a registration that is under way. -/
def unloadInOrder (sa : Int) (x : Machine) (label : MachineLabel) : Bool :=
  match x.next label with
  | some (.sendAbilityStateEvent id .abilityUnloadSuccessEvent) =>
      id != sa || !x.shared.abilityMap.contains sa ||
        x.inFlight.contains (.sendAbilityStateEvent sa .abilityLoadSuccessEvent)
  | _ => true

/-- A registered ability is up, or its load success is still in flight; and nothing is about
to take it down with its process. -/
structure Agrees (saList : String → List Int) (sa : Int) (m : Manager) (pieces : List Piece) :
    Prop where
  calm : ∀ piece ∈ pieces, ¬ piece.Stops saList sa
  up : sa ∈ m.abilityMap → (m.stateOf sa).isUp = true ∨
    .sendAbilityStateEvent sa .abilityLoadSuccessEvent ∈ pieces

variable {first : Scheduler} {saList : String → List Int} {sa : Int} {x : Machine}
  {label : MachineLabel} {piece : Piece}

theorem calm_of_alive {made : Piece} (lists : x.shared.sched.chart.saList = saList)
    (living : x.alive sa label = true) (next : x.next label = some piece)
    (calm : ¬ piece.Stops saList sa) (follows : made.Follows x.shared piece) :
    ¬ made.Stops saList sa := by
  subst lists
  cases piece with
  | lockForStop processName =>
      simp only [alive, next] at living
      have absent : sa ∉ (x.shared.sched.process processName).saList := by simpa using living
      rcases follows with rfl | rfl | rfl | rfl
      · exact not_false
      · exact absent
      · exact not_false
      · exact not_false
  | getAbnormallyDied processName =>
      rcases follows with ⟨id, inside, rfl⟩ | ⟨died, -, rfl⟩
      · rintro rfl
        exact calm inside
      · exact not_false
  | stopAbility processName id =>
      obtain ⟨-, ⟨load, -, -, -, rfl⟩ | rfl⟩ := follows <;> exact not_false
  | restartDied processName died =>
      obtain ⟨id, -, rfl | ⟨load, -, -, -, rfl⟩⟩ := follows <;> exact not_false
  | _ => grind [Piece.Follows, Piece.Stops, Loading.EndsWith]

theorem up_of_turn {env : Env} {others : List Piece} (sound : Sound first x.shared x.inFlight)
    (known : sa ∈ x.shared.sched.abilityIds) (inOrder : x.unloadInOrder sa label = true)
    (next : x.next label = some piece) (opened : x.inFlight.Perm (piece :: others))
    (good : Agrees saList sa x.shared (piece :: others))
    (registered : sa ∈ (x.shared.exec env piece).1.abilityMap) :
    ((x.shared.exec env piece).1.stateOf sa).isUp = true ∨
      .sendAbilityStateEvent sa .abilityLoadSuccessEvent ∈ (x.shared.exec env piece).2 ++ others := by
  rcases (Manager.exec_registry piece).registered registered with before | made
  · rcases good.up before with up | pending
    · by_cases unload : piece = .sendAbilityStateEvent sa .abilityUnloadSuccessEvent
      · subst unload
        simp only [unloadInOrder, next] at inOrder
        have pending : .sendAbilityStateEvent sa .abilityLoadSuccessEvent ∈ x.inFlight := by
          simpa [Std.TreeMap.contains_iff_mem.mpr before] using inOrder
        rcases List.mem_cons.mp (opened.mem_iff.mp pending) with impossible | pending
        · cases impossible
        · exact Or.inr (List.mem_append_right _ pending)
      · have listed : piece.Listed x.shared.sched.abilityIds :=
          sound.listed piece (opened.mem_iff.mpr List.mem_cons_self)
        refine Or.inl (Manager.up_of_exec listed up unload ?_)
        rintro processName rfl
        exact good.calm _ List.mem_cons_self rfl
    · rcases List.mem_cons.mp pending with rfl | pending
      · exact Or.inl (Scheduler.loadSuccess_up sound.counted known)
      · exact Or.inr (List.mem_append_right _ pending)
  · exact Or.inr (List.mem_append_left _ made)

theorem step_agrees (sound : Sound first x.shared x.inFlight) (known : sa ∈ first.abilityIds)
    (living : x.alive sa label = true) (inOrder : x.unloadInOrder sa label = true)
    (good : Agrees first.chart.saList sa x.shared x.inFlight) :
    Agrees first.chart.saList sa (x.step label).shared (x.step label).inFlight := by
  have known : sa ∈ x.shared.sched.abilityIds := by
    have ids : x.shared.sched.abilityIds = first.abilityIds := sound.layout.ids
    rw [ids]
    exact known
  refine step_keeps (Agrees first.chart.saList sa) ?_ ?_ ?_ ?_ ?_ good
  · intro m pieces others same agrees
    refine ⟨fun piece member => agrees.calm piece (same.mem_iff.mpr member), fun registered => ?_⟩
    exact (agrees.up registered).imp_right same.mem_iff.mp
  · intro call pieces agrees
    refine ⟨fun piece member => ?_, fun registered => ?_⟩
    · rcases List.mem_append.mp member with member | member
      · have begins : piece.Begins x.shared call := enter_begins member
        cases call <;> grind [Piece.Begins, Piece.Stops]
      · exact agrees.calm piece member
    · exact (agrees.up registered).imp_right (List.mem_append_right _)
  · intro env piece others next _ opened agrees
    refine ⟨fun made member => ?_, up_of_turn sound known inOrder next opened agrees⟩
    rcases List.mem_append.mp member with member | member
    · exact calm_of_alive sound.layout.saList living next (agrees.calm piece List.mem_cons_self)
        (exec_follows member)
    · exact agrees.calm made (List.mem_cons_of_mem piece member)
  · intro task rest pieces _ agrees
    refine ⟨fun piece member => ?_, fun registered => ?_⟩
    · rcases List.mem_append.mp member with member | member
      · cases task <;> grind [WorkTask.pieces, Piece.Stops]
      · exact agrees.calm piece member
    · exact (agrees.up registered).imp_right (List.mem_append_right _)
  · intro handle agrees
    exact { agrees with }

theorem run_agrees {saProfiles : List SaProfile} {labels : List MachineLabel}
    (known : sa ∈ (Scheduler.init saProfiles).abilityIds)
    (guarded : Runs.Guarded step
      (fun x label => x.alive sa label = true ∧ x.unloadInOrder sa label = true)
      (init saProfiles) labels) :
    Agrees (Scheduler.init saProfiles).chart.saList sa (runFrom saProfiles labels).shared
      (runFrom saProfiles labels).inFlight := by
  let first := Scheduler.init saProfiles
  have both : Sound first (runFrom saProfiles labels).shared (runFrom saProfiles labels).inFlight ∧
      Agrees first.chart.saList sa (runFrom saProfiles labels).shared
        (runFrom saProfiles labels).inFlight := by
    refine Runs.guarded_invariant
      (fun x : Machine => Sound first x.shared x.inFlight ∧
        Agrees first.chart.saList sa x.shared x.inFlight) ?_ guarded ?_
    · rintro x label ⟨living, inOrder⟩ ⟨sound, agrees⟩
      exact ⟨step_sound label sound, step_agrees sound known living inOrder agrees⟩
    · refine ⟨runFrom_sound saProfiles [], fun _ member => absurd member List.not_mem_nil, ?_⟩
      exact fun registered => absurd registered Std.TreeMap.not_mem_emptyc
  exact both.2

end Machine

/-- A process one of whose abilities is up cannot be killed for want of loaded abilities. -/
theorem Scheduler.not_canKill_of_up {s : Scheduler} {sa : Int} (good : s.chart.Counted)
    (known : sa ∈ s.abilityIds) (up : (s.ability sa).state.isUp = true) :
    s.canKillSystemProcessLocked (s.ownProcessName sa) = false := by
  have counted : (s.ownProcess sa).abilityStateCountMap (s.ability sa).state ≠ 0 :=
    good.count_ne_zero known
  have whole : total (s.ownProcess sa).abilityStateCountMap = (s.ownProcess sa).saList.length :=
    good.total (s.ownProcessName sa)
  rw [Bool.eq_false_iff]
  intro kills
  have all : (s.ownProcess sa).abilityStateCountMap .notLoaded = (s.ownProcess sa).saList.length := by
    simpa [canKillSystemProcessLocked, ownProcess] using kills
  rw [← all] at whole
  simp only [total] at whole
  cases state : (s.ability sa).state <;> rw [state] at counted up
  · cases up
  · cases up
  all_goals omega

namespace Machine

/-- In a run in which no process of the ability dies and every unload success comes in order:
whenever no call that adds or removes it is in flight, a registered ability is LOADED,
UNLOADABLE or UNLOADING, and its process is not one to be killed. -/
theorem registered_ability_is_up (saProfiles : List SaProfile) (labels : List MachineLabel) (sa : Int)
    (known : sa ∈ (Scheduler.init saProfiles).abilityIds)
    (guarded : Runs.Guarded step
      (fun x label => x.alive sa label = true ∧ x.unloadInOrder sa label = true)
      (init saProfiles) labels)
    (quiet : ∀ piece ∈ (runFrom saProfiles labels).inFlight, piece.registers sa = false)
    (registered : sa ∈ (runFrom saProfiles labels).shared.abilityMap) :
    let m := (runFrom saProfiles labels).shared
    (m.stateOf sa = .loaded ∨ m.stateOf sa = .unloadable ∨ m.stateOf sa = .unloading) ∧
      m.sched.canKillSystemProcessLocked (m.sched.ownProcessName sa) = false := by
  intro m
  have sound : Sound (Scheduler.init saProfiles) m (runFrom saProfiles labels).inFlight :=
    runFrom_sound saProfiles labels
  have ids : m.sched.abilityIds = (Scheduler.init saProfiles).abilityIds := sound.layout.ids
  have up : (m.stateOf sa).isUp = true := by
    rcases (run_agrees known guarded).up registered with up | pending
    · exact up
    · have busy := quiet _ pending
      simp [Piece.registers] at busy
  refine ⟨?_, Scheduler.not_canKill_of_up sound.counted (ids ▸ known) up⟩
  cases state : m.stateOf sa <;> rw [state] at up <;> simp_all [SystemAbilityState.isUp]

/-- The process of ability 1 registers, and then ability 1. -/
def registerOne : List MachineLabel :=
  [.call (.addSystemProcess ⟨"host", 100, 1000⟩ 3)] ++ runs 0 3 ++
    [.call (.addSystemAbility 1 5 false)] ++ runs 1 6

/-- Ability 1 is registered, removed and registered again, each call in one go. -/
def readdOne : List MachineLabel :=
  registerOne ++ [.call (.removeSystemAbility 1)] ++ runs 2 3 ++
    [.call (.addSystemAbility 1 6 false)] ++ runs 3 6

theorem readdOne_is_up :
    let m := (runFrom hostOfOne readdOne).shared
    (m.stateOf 1 = .loaded ∨ m.stateOf 1 = .unloadable ∨ m.stateOf 1 = .unloading) ∧
      m.sched.canKillSystemProcessLocked (m.sched.ownProcessName 1) = false :=
  registered_ability_is_up hostOfOne readdOne 1 (by decide +kernel) (by decide +kernel)
    (by decide +kernel) (by decide +kernel)

/-- The same calls, but the removal sends its unload success after the second registration. -/
def lateUnload : List MachineLabel :=
  registerOne ++ [.call (.removeSystemAbility 1)] ++ runs 2 1 ++
    [.call (.addSystemAbility 1 6 false)] ++ runs 3 6 ++ runs 2 2

theorem late_unload_parts_registry_and_scheduler :
    ¬ ∀ (saProfiles : List SaProfile) (labels : List MachineLabel) (sa : Int),
      sa ∈ (Scheduler.init saProfiles).abilityIds →
      Runs.Guarded step (fun x label => x.alive sa label = true) (init saProfiles) labels →
      (∀ piece ∈ (runFrom saProfiles labels).inFlight, piece.registers sa = false) →
      sa ∈ (runFrom saProfiles labels).shared.abilityMap →
      let m := (runFrom saProfiles labels).shared
      (m.stateOf sa = .loaded ∨ m.stateOf sa = .unloadable ∨ m.stateOf sa = .unloading) ∧
        m.sched.canKillSystemProcessLocked (m.sched.ownProcessName sa) = false := by
  intro always
  have up := always hostOfOne lateUnload 1 (by decide +kernel) (by decide +kernel)
    (by decide +kernel) (by decide +kernel)
  revert up
  decide +kernel

end Machine

end Samgr
