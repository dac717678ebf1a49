import Samgr.Manager.Machine

/-! The stop of a user beside its manager. The names of the registered processes are taken once,
and the processes of these names are waited for, or stopped, one after the other; the manager runs
on meanwhile and starts processes. -/
namespace Samgr

/-- What `CompleteUserStopping` did about a process. -/
inductive StopOutcome where
  | observedStopped
  | sentStop (stopRet : Int)
  deriving DecidableEq, Repr

/-- A process for which a START succeeded. It is late if the stop had passed its name by then. -/
structure StartedProcess where
  processName : String
  late : Bool
  exited : Bool := false
  outcome : Option StopOutcome := none
  deriving DecidableEq, Repr

/-- A user's manager with its stop: the names the stop has taken, and those `CompleteUserStopping`
has still to go through, once it runs. -/
structure UserStop where
  manager : Machine
  started : List StartedProcess := []
  processNames : Option (List String) := none
  remaining : Option (List String) := none

/-- A step of the manager, the exit of a process, or a step of the stop: `waitResult` and `stopRet`
are what the init process answers. -/
inductive StopLabel where
  | manager (label : MachineLabel)
  | exit (n : Nat)
  | startUserStopping
  | completeUserStopping
  | stopProcess (waitResult stopRet : Int)

/-- The process that this step starts: `StartDynamicSystemProcess` with a START that succeeds. -/
def Machine.starts (x : Machine) (label : MachineLabel) : Option String :=
  match label, x.next label with
  | .run _ env, some (.startDynamicSystemProcess load) =>
      if env.serviceControl x.shared.sched.now = 0 then
        some (x.shared.sched.ownProcessName load.systemAbilityId)
      else none
  | _, _ => none

def Manager.getSystemProcessNames (m : Manager) : List String := m.systemProcessMap.keys

namespace StartedProcess

variable (p : StartedProcess)

def stop (waitResult stopRet : Int) (processName : String) : StartedProcess :=
  if p.processName = processName then
    { p with outcome := some (if waitResult = 0 then .observedStopped else .sentStop stopRet) }
  else p

def exit : StartedProcess := { p with exited := true }

/-- Nothing is left to do about the process. -/
def Settled : Prop := p.exited = true ∨ p.outcome ≠ none

instance : Decidable p.Settled := inferInstanceAs (Decidable (_ ∨ _))

@[simp] theorem stop_processName (waitResult stopRet : Int) (processName : String) :
    (p.stop waitResult stopRet processName).processName = p.processName := by
  unfold stop
  split <;> rfl

@[simp] theorem stop_late (waitResult stopRet : Int) (processName : String) :
    (p.stop waitResult stopRet processName).late = p.late := by
  unfold stop
  split <;> rfl

end StartedProcess

namespace UserStop

def init (saProfiles : List SaProfile) : UserStop := { manager := Machine.init saProfiles }

/-- `CompleteUserStopping` runs and will not come to the name any more. -/
def Passed (x : UserStop) (processName : String) : Prop :=
  ∃ rest, x.remaining = some rest ∧ processName ∉ rest

instance (x : UserStop) (processName : String) : Decidable (x.Passed processName) :=
  match shape : x.remaining with
  | none => isFalse (by simp [Passed, shape])
  | some rest => decidable_of_iff (processName ∉ rest) (by simp [Passed, shape])

def step (x : UserStop) : StopLabel → UserStop
  | .manager label =>
      { x with
        manager := x.manager.step label
        started := x.started ++ (x.manager.starts label).toList.map fun processName =>
          { processName, late := x.Passed processName } }
  | .exit n => { x with started := x.started.modify n StartedProcess.exit }
  | .startUserStopping =>
      -- a manager is taken out of the map of users once, so it is stopped once
      if x.processNames = none then
        { x with processNames := some x.manager.shared.getSystemProcessNames }
      else x
  | .completeUserStopping =>
      -- `finalizing` lets one call through
      if x.remaining = none then { x with remaining := x.processNames } else x
  | .stopProcess waitResult stopRet =>
      match x.remaining with
      | some (processName :: rest) =>
          { x with
            started := x.started.map fun p => p.stop waitResult stopRet processName
            remaining := some rest }
      | _ => x

def runFrom (saProfiles : List SaProfile) (labels : List StopLabel) : UserStop :=
  Runs.run step (init saProfiles) labels

/-- What the stop did follows from the names it took: it dealt only with processes of these names
that were not late, and with all of them whose names it has passed. -/
structure Tracked (x : UserStop) : Prop where
  running : x.remaining ≠ none → x.processNames ≠ none
  inside : ∀ names rest, x.processNames = some names → x.remaining = some rest → rest ⊆ names
  late : ∀ p ∈ x.started, p.late = true → x.Passed p.processName
  dealt : ∀ p ∈ x.started, p.outcome ≠ none →
    (∃ names, x.processNames = some names ∧ p.processName ∈ names) ∧ p.late = false
  reached : ∀ p ∈ x.started, ∀ names, x.processNames = some names → p.processName ∈ names →
    p.late = false → x.Passed p.processName → p.outcome ≠ none

variable {x : UserStop}

theorem Tracked.init (saProfiles : List SaProfile) : (init saProfiles).Tracked where
  running := by simp [UserStop.init]
  inside := by simp [UserStop.init]
  late := by simp [UserStop.init]
  dealt := by simp [UserStop.init]
  reached := by simp [UserStop.init]

theorem Tracked.start (good : x.Tracked) (processName : String) (manager : Machine) :
    Tracked { x with
      manager, started := x.started ++ [{ processName, late := x.Passed processName }] } where
  running := good.running
  inside := good.inside
  late := by
    intro p member isLate
    rcases List.mem_append.mp member with old | new
    · exact good.late p old isLate
    · obtain rfl := List.mem_singleton.mp new
      exact of_decide_eq_true isLate
  dealt := by
    intro p member done
    rcases List.mem_append.mp member with old | new
    · exact good.dealt p old done
    · obtain rfl := List.mem_singleton.mp new
      cases done rfl
  reached := by
    intro p member names taken listed early passed
    rcases List.mem_append.mp member with old | new
    · exact good.reached p old names taken listed early passed
    · -- a new process whose name has been passed is late
      obtain rfl := List.mem_singleton.mp new
      exact absurd passed (of_decide_eq_false early)

theorem Tracked.exit (good : x.Tracked) (n : Nat) :
    Tracked { x with started := x.started.modify n StartedProcess.exit } := by
  have origin : ∀ p ∈ x.started.modify n StartedProcess.exit, ∃ q ∈ x.started,
      p.processName = q.processName ∧ p.late = q.late ∧ p.outcome = q.outcome := by
    intro p member
    obtain ⟨i, found⟩ := List.mem_iff_getElem?.mp member
    rw [List.getElem?_modify] at found
    obtain ⟨q, old, rfl⟩ := Option.map_eq_some_iff.mp found
    refine ⟨q, List.mem_of_getElem? old, ?_⟩
    split <;> exact ⟨rfl, rfl, rfl⟩
  constructor
  · exact good.running
  · exact good.inside
  · intro p member isLate
    obtain ⟨q, old, name, late, -⟩ := origin p member
    rw [name]
    exact good.late q old (late ▸ isLate)
  · intro p member done
    obtain ⟨q, old, name, late, outcome⟩ := origin p member
    rw [name, late]
    exact good.dealt q old (outcome ▸ done)
  · intro p member names taken listed early passed
    obtain ⟨q, old, name, late, outcome⟩ := origin p member
    rw [name] at listed passed
    rw [outcome]
    exact good.reached q old names taken listed (late ▸ early) passed

theorem Tracked.stop (good : x.Tracked) {processName : String} {rest : List String}
    (shape : x.remaining = some (processName :: rest)) (waitResult stopRet : Int) :
    Tracked { x with
      started := x.started.map fun p => p.stop waitResult stopRet processName
      remaining := some rest } := by
  have listed : ∀ names, x.processNames = some names → processName ∈ names ∧ rest ⊆ names := by
    intro names taken
    exact List.cons_subset.mp (good.inside names _ taken shape)
  have notPassed : ¬ x.Passed processName := by simp [Passed, shape]
  constructor
  · intro _
    exact good.running (by simp [shape])
  · intro names rest' taken same
    cases same
    exact (listed names taken).2
  · intro p member isLate
    obtain ⟨q, old, rfl⟩ := List.mem_map.mp member
    obtain ⟨left, same, absent⟩ := good.late q old (by simpa using isLate)
    cases shape.symm.trans same
    refine ⟨rest, rfl, ?_⟩
    simpa using fun inside => absent (List.mem_cons_of_mem processName inside)
  · intro p member done
    obtain ⟨q, old, rfl⟩ := List.mem_map.mp member
    by_cases own : q.processName = processName
    · -- the name was still to come, so the process is not late
      obtain ⟨names, taken⟩ := Option.ne_none_iff_exists'.mp (good.running (by simp [shape]))
      refine ⟨⟨names, taken, ?_⟩, ?_⟩
      · simpa [own] using (listed names taken).1
      · by_contra isLate
        exact notPassed (own ▸ good.late q old (by simpa using isLate))
    · simp only [StartedProcess.stop, own, if_false] at done ⊢
      exact good.dealt q old done
  · intro p member names taken known early passed
    obtain ⟨q, old, rfl⟩ := List.mem_map.mp member
    by_cases own : q.processName = processName
    · simp [StartedProcess.stop, own]
    · simp only [StartedProcess.stop, own, if_false] at known early passed ⊢
      obtain ⟨left, same, absent⟩ := passed
      cases same
      refine good.reached q old names taken known early ⟨_, shape, ?_⟩
      simpa [own] using absent

theorem Tracked.step (good : x.Tracked) (label : StopLabel) : (x.step label).Tracked := by
  cases label with
  | manager label =>
      simp only [UserStop.step]
      cases x.manager.starts label with
      | none =>
          simp only [Option.toList_none, List.map_nil, List.append_nil]
          exact ⟨good.running, good.inside, good.late, good.dealt, good.reached⟩
      | some processName => exact good.start processName (x.manager.step label)
  | exit n => exact good.exit n
  | startUserStopping =>
      simp only [UserStop.step]
      split
      · rename_i fresh
        have idle : x.remaining = none := by
          by_contra runs
          exact good.running runs fresh
        constructor
        · simp
        · simp [idle]
        · exact good.late
        · intro p member done
          obtain ⟨⟨names, taken, -⟩, -⟩ := good.dealt p member done
          cases fresh.symm.trans taken
        · intro p member names _ _ _ passed
          obtain ⟨rest, same, -⟩ := passed
          cases idle.symm.trans same
      · exact good
  | completeUserStopping =>
      simp only [UserStop.step]
      split
      · rename_i idle
        have never : ∀ processName, ¬ x.Passed processName := by simp [Passed, idle]
        constructor
        · exact fun taken => taken
        · intro names rest taken same
          cases taken.symm.trans same
          exact List.Subset.refl names
        · intro p member isLate
          exact absurd (good.late p member isLate) (never _)
        · exact good.dealt
        · intro p member names taken listed early passed
          obtain ⟨rest, same, absent⟩ := passed
          cases taken.symm.trans same
          exact absurd listed absent
      · exact good
  | stopProcess waitResult stopRet =>
      simp only [UserStop.step]
      split
      · rename_i processName rest shape
        exact good.stop shape waitResult stopRet
      · exact good

theorem tracked_run (saProfiles : List SaProfile) (labels : List StopLabel) :
    (runFrom saProfiles labels).Tracked :=
  Runs.run_invariant Tracked (fun _ label good => good.step label) labels (.init saProfiles)

/-- The names are taken once. -/
theorem processNames_run {names : List String} (taken : x.processNames = some names)
    (labels : List StopLabel) : (Runs.run step x labels).processNames = some names := by
  refine Runs.run_invariant (fun y : UserStop => y.processNames = some names) ?_ labels taken
  intro y label same
  cases label with
  | startUserStopping => simp [step, same]
  | completeUserStopping =>
      simp only [step]
      split <;> exact same
  | stopProcess waitResult stopRet =>
      simp only [step]
      split <;> exact same
  | _ => exact same

/-- When `CompleteUserStopping` has gone through all names, it has dealt with every process that was
started and has not exited exactly when these processes were registered as the names were taken, and
none of them was started after its name had been passed. -/
theorem stop_settles_iff_registered (saProfiles : List SaProfile) (before after : List StopLabel) :
    let x := runFrom saProfiles before
    let y := Runs.run step (x.step .startUserStopping) after
    x.processNames = none → y.remaining = some [] →
      ((∀ p ∈ y.started, p.Settled) ↔
        ∀ p ∈ y.started, p.exited = false →
          p.processName ∈ x.manager.shared.systemProcessMap ∧ p.late = false) := by
  intro x y fresh done
  have good : y.Tracked := by
    have whole := tracked_run saProfiles (before ++ .startUserStopping :: after)
    rwa [runFrom, Runs.run_append, Runs.run_cons] at whole
  have taken : y.processNames = some x.manager.shared.getSystemProcessNames := by
    apply processNames_run
    simp [step, fresh]
  have named : ∀ processName, processName ∈ x.manager.shared.getSystemProcessNames ↔
      processName ∈ x.manager.shared.systemProcessMap := by
    intro processName
    simp [Manager.getSystemProcessNames]
  have passed : ∀ processName, y.Passed processName := by simp [Passed, done]
  constructor
  · intro settled p member runs
    rcases settled p member with exited | dealt
    · cases runs.symm.trans exited
    · obtain ⟨⟨names, same, listed⟩, early⟩ := good.dealt p member dealt
      cases taken.symm.trans same
      exact ⟨(named _).mp listed, early⟩
  · intro registered p member
    cases runs : p.exited with
    | true => exact Or.inl runs
    | false =>
        obtain ⟨listed, early⟩ := registered p member runs
        exact Or.inr (good.reached p member _ taken ((named _).mpr listed) early (passed _))

/-- A load request for the ability of the host, which starts the process. -/
def startHost : List StopLabel :=
  (.call (.load (Scheduler.localLoad 1 7 70)) :: Machine.runs 0 10).map StopLabel.manager

/-- The started process registers itself. -/
def registerHost : List StopLabel :=
  (.call (.addSystemProcess ⟨"host", 100, 1000⟩ 500) :: Machine.runs 1 3).map StopLabel.manager

theorem registered_host_is_settled :
    let x := runFrom Machine.hostOfOne (startHost ++ registerHost)
    let y := Runs.run step (x.step .startUserStopping) [.completeUserStopping, .stopProcess (-1) 0]
    y.started ≠ [] ∧ ∀ p ∈ y.started, p.Settled := by
  intro x y
  constructor
  · decide +kernel
  · apply (stop_settles_iff_registered Machine.hostOfOne (startHost ++ registerHost)
      [.completeUserStopping, .stopProcess (-1) 0] (by decide +kernel) (by decide +kernel)).mpr
    decide +kernel

/-- The process has been started and is not registered yet: the stop takes no name and ends without
it. -/
theorem starting_host_is_left :
    ¬ ∀ (saProfiles : List SaProfile) (before after : List StopLabel),
      let x := runFrom saProfiles before
      let y := Runs.run step (x.step .startUserStopping) after
      x.processNames = none → y.remaining = some [] → ∀ p ∈ y.started, p.Settled := by
  intro always
  have settled := always Machine.hostOfOne startHost [.completeUserStopping] (by decide +kernel)
    (by decide +kernel) { processName := "host", late := false } (by decide +kernel)
  revert settled
  decide

end UserStop

end Samgr
