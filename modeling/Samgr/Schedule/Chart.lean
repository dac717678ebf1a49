import Samgr.Schedule.StateMachine
import Samgr.Lib.Tally
import Samgr.Lib.Runs

/-! The scheduler as a chart: what its contexts say about the states of abilities and
processes, without the order in which the code reaches them. Every operation of the
scheduler is a path of the changes below, so an invariant is checked once per change. -/
namespace Samgr

/-- The lifecycle data of a scheduler. `timer` holds of an ability with a delay-unload
task that is waiting or running, `loads` are the load requests handled for an ability so
far, `idled` counts its moves to UNLOADABLE, `ident` is the pid and uid of a process,
`running` the list of running processes, and `failed` holds once a counter update has been
refused. -/
@[ext] structure Chart where
  ids : List Int
  names : List String
  own : Int → String
  saList : String → List Int
  state : Int → SystemAbilityState
  pendingEvent : Int → PendingEvent
  pended : Int → List LoadRequestInfo
  proc : String → SystemProcessState
  count : String → SystemAbilityState → Nat
  timer : Int → Prop
  loads : Int → List LoadRequestInfo
  idled : Int → Nat
  ident : String → Int × Int
  running : List SystemProcessInfo
  failed : Prop

inductive Change where
  | transit (systemAbilityId : Int) (fromState toState : SystemAbilityState)
  | countFail (systemAbilityId : Int)
  | process (processName : String) (toState : SystemProcessState)
  | pend (systemAbilityId : Int) (request : LoadRequestInfo)
  | clearPended (systemAbilityId : Int)
  | resetLoad (systemAbilityId : Int)
  | pendUnload (systemAbilityId : Int)
  | resetUnload (systemAbilityId : Int)
  | startTimer (systemAbilityId : Int)
  | dropTimers
  | handle (systemAbilityId : Int) (request : LoadRequestInfo)
  | enroll (processName : String)

/-- The entries of a process in the list of running processes. -/
def entriesOf (processName : String) (running : List SystemProcessInfo) : List SystemProcessInfo :=
  running.filter fun info => info.processName == processName

theorem entriesOf_eraseP_of_ne {processName name : String} {running : List SystemProcessInfo}
    (other : name ≠ processName) :
    entriesOf name (running.eraseP fun info => info.processName == processName) =
      entriesOf name running := by
  simp only [entriesOf] at *
  induction running with
  | nil => rfl
  | cons info running hypothesis =>
      by_cases same : info.processName = processName
      · simp [same, Ne.symm other]
      · simp [same, List.filter_cons, hypothesis]

theorem entriesOf_replaceF_of_ne {processName name : String} {running : List SystemProcessInfo}
    {entry : SystemProcessInfo} (other : name ≠ processName) (own : entry.processName = processName) :
    entriesOf name (running.replaceF fun info =>
        if info.processName == processName then some entry else none) =
      entriesOf name running := by
  simp only [entriesOf, beq_iff_eq] at *
  induction running with
  | nil => rfl
  | cons info running hypothesis =>
      by_cases same : info.processName = processName
      · simp [same, own, Ne.symm other]
      · simp [same, List.filter_cons, hypothesis]

namespace Chart

variable (x y : Chart)

/-- The abilities whose own process is `processName`. -/
def owned (processName : String) : List Int := x.ids.filter fun id => x.own id = processName

/-- No ability of the process is counted as LOADING or LOADED. -/
def Idle (processName : String) : Prop :=
  x.count processName .notLoaded + x.count processName .unloadable +
    x.count processName .unloading = (x.saList processName).length

/-- The condition under which a load request is pended. -/
def Leaving (systemAbilityId : Int) : Prop :=
  x.state systemAbilityId = .unloading ∨ x.proc (x.own systemAbilityId) = .stopping

def moveCount (count : SystemAbilityState → Nat) (fromState toState : SystemAbilityState) :
    SystemAbilityState → Nat :=
  let left := Function.update count fromState (count fromState - 1)
  Function.update left toState (left toState + 1)

/-- What one change requires and does. -/
def Step : Change → Prop
  | .transit sa fromState toState =>
      sa ∈ x.ids ∧ x.state sa = fromState ∧ toState.canEnter fromState ∧
      x.count (x.own sa) fromState ≠ 0 ∧
      (toState = .loading → x.proc (x.own sa) ≠ .stopping) ∧
      y = { x with
            state := Function.update x.state sa toState
            count := Function.update x.count (x.own sa)
              (moveCount (x.count (x.own sa)) fromState toState)
            idled := if toState = .unloadable then Function.update x.idled sa (x.idled sa + 1)
              else x.idled }
  | .countFail sa =>
      sa ∈ x.ids ∧ x.count (x.own sa) (x.state sa) = 0 ∧ y = { x with failed := True }
  | .process processName toState =>
      toState.canEnter (x.proc processName) ∧ (toState = .stopping → x.Idle processName) ∧
      y = { x with proc := Function.update x.proc processName toState }
  | .pend sa request =>
      x.Leaving sa ∧
      y = { x with
            pended := Function.update x.pended sa (x.pended sa ++ [request])
            pendingEvent := Function.update x.pendingEvent sa .loadAbilityEvent }
  | .clearPended sa => y = { x with pended := Function.update x.pended sa [] }
  | .resetLoad sa =>
      x.pendingEvent sa = .loadAbilityEvent ∧
      y = { x with pendingEvent := Function.update x.pendingEvent sa .noEvent }
  | .pendUnload sa =>
      x.state sa = .loading ∧
      y = { x with pendingEvent := Function.update x.pendingEvent sa .unloadAbilityEvent }
  | .resetUnload sa =>
      x.pendingEvent sa = .unloadAbilityEvent ∧
      y = { x with pendingEvent := Function.update x.pendingEvent sa .noEvent }
  | .startTimer sa => y = { x with timer := fun id => id = sa ∨ x.timer id }
  | .dropTimers => ∃ timer : Int → Prop, (∀ id, timer id → x.timer id) ∧ y = { x with timer }
  | .handle sa request =>
      y = { x with loads := Function.update x.loads sa (x.loads sa ++ [request]) }
  | .enroll processName =>
      ∃ (who : Int × Int) (running : List SystemProcessInfo),
        (∀ name, name ≠ processName → entriesOf name running = entriesOf name x.running) ∧
        y = { x with ident := Function.update x.ident processName who, running }

/-- A path of changes that all satisfy `P`. -/
def Path (P : Change → Prop) : Chart → Chart → Prop :=
  Relation.ReflTransGen fun x y => ∃ c, P c ∧ Step x y c

variable {x y}
variable {P Q : Change → Prop}

@[refl] theorem Path.refl (x : Chart) : Path P x x := Relation.ReflTransGen.refl

theorem Path.trans {z : Chart} (first : Path P x y) (second : Path P y z) : Path P x z :=
  Relation.ReflTransGen.trans first second

theorem Path.single {c : Change} (allowed : P c) (step : Step x y c) : Path P x y :=
  Relation.ReflTransGen.single ⟨c, allowed, step⟩

theorem Path.mono (weaker : ∀ c, P c → Q c) (path : Path P x y) : Path Q x y :=
  Relation.ReflTransGen.mono (fun _ _ ⟨c, allowed, step⟩ => ⟨c, weaker c allowed, step⟩) _ _ path

/-- What every allowed change keeps, a path keeps. -/
theorem Path.keeps (inv : Chart → Prop)
    (keep : ∀ {x y c}, P c → Step x y c → inv x → inv y) (path : Path P x y) (start : inv x) :
    inv y :=
  Runs.path_invariant (fun ⟨_, allowed, step⟩ => keep allowed step) path start

/-- The layout of contexts is fixed by initialisation. -/
structure SameLayout (x y : Chart) : Prop where
  ids : y.ids = x.ids
  names : y.names = x.names
  own : y.own = x.own
  saList : y.saList = x.saList

theorem SameLayout.trans {z : Chart} (first : SameLayout x y) (second : SameLayout y z) :
    SameLayout x z :=
  ⟨second.ids.trans first.ids, second.names.trans first.names, second.own.trans first.own,
    second.saList.trans first.saList⟩

theorem Step.sameLayout {c : Change} (step : Step x y c) : SameLayout x y := by
  cases c with
  | transit sa fromState toState => obtain ⟨-, -, -, -, -, rfl⟩ := step; exact ⟨rfl, rfl, rfl, rfl⟩
  | countFail sa => obtain ⟨-, -, rfl⟩ := step; exact ⟨rfl, rfl, rfl, rfl⟩
  | process processName toState => obtain ⟨-, -, rfl⟩ := step; exact ⟨rfl, rfl, rfl, rfl⟩
  | dropTimers => obtain ⟨timer, -, rfl⟩ := step; exact ⟨rfl, rfl, rfl, rfl⟩
  | pend sa request => obtain ⟨-, rfl⟩ := step; exact ⟨rfl, rfl, rfl, rfl⟩
  | resetLoad sa => obtain ⟨-, rfl⟩ := step; exact ⟨rfl, rfl, rfl, rfl⟩
  | pendUnload sa => obtain ⟨-, rfl⟩ := step; exact ⟨rfl, rfl, rfl, rfl⟩
  | resetUnload sa => obtain ⟨-, rfl⟩ := step; exact ⟨rfl, rfl, rfl, rfl⟩
  | clearPended sa => cases step; exact ⟨rfl, rfl, rfl, rfl⟩
  | startTimer sa => cases step; exact ⟨rfl, rfl, rfl, rfl⟩
  | handle sa request => cases step; exact ⟨rfl, rfl, rfl, rfl⟩
  | enroll processName => obtain ⟨who, running, -, rfl⟩ := step; exact ⟨rfl, rfl, rfl, rfl⟩

theorem Path.sameLayout (path : Path P x y) : SameLayout x y :=
  path.keeps (SameLayout x) (fun _ step same => same.trans step.sameLayout) ⟨rfl, rfl, rfl, rfl⟩

/-- Each part of the chart is changed by the changes named for it only. -/
theorem Step.frame {c : Change} (step : Step x y c) :
    (y.state = x.state ∨ ∃ sa fromState toState, c = .transit sa fromState toState) ∧
    (y.proc = x.proc ∨ ∃ processName toState, c = .process processName toState) ∧
    (y.pended = x.pended ∨ (∃ sa request, c = .pend sa request) ∨ ∃ sa, c = .clearPended sa) ∧
    (y.loads = x.loads ∨ ∃ sa request, c = .handle sa request) ∧
    (y.idled = x.idled ∨ ∃ sa fromState, c = .transit sa fromState .unloadable) := by
  cases c with
  | process processName toState => obtain ⟨-, -, rfl⟩ := step; simp
  | transit sa fromState toState =>
      obtain ⟨-, -, -, -, -, rfl⟩ := step
      by_cases unloads : toState = .unloadable <;> simp [unloads]
  | countFail sa => obtain ⟨-, -, rfl⟩ := step; simp
  | dropTimers => obtain ⟨timer, -, rfl⟩ := step; simp
  | pend sa request => obtain ⟨-, rfl⟩ := step; simp
  | resetLoad sa => obtain ⟨-, rfl⟩ := step; simp
  | pendUnload sa => obtain ⟨-, rfl⟩ := step; simp
  | resetUnload sa => obtain ⟨-, rfl⟩ := step; simp
  | clearPended sa => cases step; simp
  | startTimer sa => cases step; simp
  | handle sa request => cases step; simp
  | enroll processName => obtain ⟨who, running, -, rfl⟩ := step; simp

theorem Path.state_eq (path : Path P x y)
    (quiet : ∀ sa fromState toState, ¬ P (.transit sa fromState toState)) : y.state = x.state := by
  refine path.keeps (fun z => z.state = x.state) ?_ rfl
  intro z w c allowed step same
  rcases step.frame.1 with kept | ⟨sa, fromState, toState, rfl⟩
  · exact kept.trans same
  · exact absurd allowed (quiet sa fromState toState)

/-- A path without process changes leaves every process where it is. -/
theorem Path.proc_eq (path : Path P x y)
    (quiet : ∀ processName toState, ¬ P (.process processName toState)) : y.proc = x.proc := by
  refine path.keeps (fun z => z.proc = x.proc) ?_ rfl
  intro z w c allowed step same
  rcases step.frame.2.1 with kept | ⟨processName, toState, rfl⟩
  · exact kept.trans same
  · exact absurd allowed (quiet processName toState)

theorem Path.pended_eq (path : Path P x y) (noPend : ∀ sa request, ¬ P (.pend sa request))
    (noClear : ∀ sa, ¬ P (.clearPended sa)) : y.pended = x.pended := by
  refine path.keeps (fun z => z.pended = x.pended) ?_ rfl
  intro z w c allowed step same
  rcases step.frame.2.2.1 with kept | ⟨sa, request, rfl⟩ | ⟨sa, rfl⟩
  · exact kept.trans same
  · exact absurd allowed (noPend sa request)
  · exact absurd allowed (noClear sa)

theorem Path.loads_eq (path : Path P x y) (quiet : ∀ sa request, ¬ P (.handle sa request)) :
    y.loads = x.loads := by
  refine path.keeps (fun z => z.loads = x.loads) ?_ rfl
  intro z w c allowed step same
  rcases step.frame.2.2.2.1 with kept | ⟨sa, request, rfl⟩
  · exact kept.trans same
  · exact absurd allowed (quiet sa request)

end Chart

end Samgr
