import Samgr.Schedule.Refinement
import Mathlib.Data.List.Perm.Subperm

/-! The counters of a process mirror the states of its abilities. Counting is checked on
the chart, one change at a time, for any profile list: a counter is never below the number
of abilities it stands for. With distinct ids the two are equal. -/
namespace Samgr

open Tally

/-- The sum of the five counters. -/
def total (count : SystemAbilityState → Nat) : Nat :=
  count .notLoaded + count .loading + count .loaded + count .unloadable + count .unloading

theorem total_tally {Item : Type} (items : List Item) (f : Item → SystemAbilityState) :
    total (tally items f) = items.length := by
  induction items with
  | nil => rfl
  | cons item items hypothesis =>
      simp only [total, tally_cons, List.length_cons] at hypothesis ⊢
      cases f item <;> simp <;> omega

theorem total_moveCount {count : SystemAbilityState → Nat} {fromState toState : SystemAbilityState}
    (positive : count fromState ≠ 0) : total (Chart.moveCount count fromState toState) = total count := by
  cases fromState <;> cases toState <;> simp [total, Chart.moveCount] <;> omega

/-- Two families of counters with one total, one below the other, are equal. -/
theorem eq_of_le_of_total {small large : SystemAbilityState → Nat}
    (below : ∀ state, small state ≤ large state) (same : total small = total large)
    (state : SystemAbilityState) : small state = large state := by
  have notLoaded := below .notLoaded
  have loading := below .loading
  have loaded := below .loaded
  have unloadable := below .unloadable
  have unloading := below .unloading
  simp only [total] at same
  cases state <;> omega

namespace Chart

variable {x y : Chart}

/-- The counting invariant. -/
structure Counted (x : Chart) : Prop where
  nodup : x.ids.Nodup
  listed : ∀ sa ∈ x.ids, sa ∈ x.saList (x.own sa)
  total : ∀ processName, total (x.count processName) = (x.saList processName).length
  covers : ∀ processName state, tally (x.owned processName) x.state state ≤ x.count processName state
  sound : ¬ x.failed

theorem mem_owned {sa : Int} {processName : String} :
    sa ∈ x.owned processName ↔ sa ∈ x.ids ∧ x.own sa = processName := by
  simp [owned]

/-- A listed ability is counted in its own process under its own state. -/
theorem Counted.count_ne_zero (good : Counted x) {sa : Int} (listed : sa ∈ x.ids) :
    x.count (x.own sa) (x.state sa) ≠ 0 := by
  have member : sa ∈ x.owned (x.own sa) := mem_owned.mpr ⟨listed, rfl⟩
  have positive := tally_pos member x.state
  have covered := good.covers (x.own sa) (x.state sa)
  omega

/-- One counted move of a listed ability. -/
theorem Counted.moved (good : Counted x) {sa : Int} {fromState toState : SystemAbilityState}
    (listed : sa ∈ x.ids) (before : x.state sa = fromState) (enterable : toState.canEnter fromState)
    (positive : x.count (x.own sa) fromState ≠ 0) {idled : Int → Nat}
    (after : y = { x with
      state := Function.update x.state sa toState
      count := Function.update x.count (x.own sa)
        (moveCount (x.count (x.own sa)) fromState toState)
      idled }) : Counted y := by
  subst before after
  have different : x.state sa ≠ toState := by
    intro same
    rw [same] at enterable
    cases toState <;> simp [SystemAbilityState.canEnter] at enterable
  refine ⟨good.nodup, good.listed, ?_, ?_, good.sound⟩
  · intro processName
    by_cases own : x.own sa = processName
    · subst own
      simp only [Function.update_self, total_moveCount positive]
      exact good.total (x.own sa)
    · simp only [Function.update_of_ne (Ne.symm own)]
      exact good.total processName
  · intro processName state
    have nodup : (x.owned processName).Nodup := good.nodup.filter _
    have covered := good.covers processName state
    by_cases own : x.own sa = processName
    · subst own
      have relabel := tally_update nodup (mem_owned.mpr ⟨listed, rfl⟩) x.state toState state
      change tally (x.owned (x.own sa)) (Function.update x.state sa toState) state ≤ _
      simp only [Function.update_self, moveCount, Function.update_apply]
      split at relabel <;> split at relabel <;> simp_all <;> grind
    · have absent : sa ∉ x.owned processName := fun member => own (mem_owned.mp member).2
      change tally (x.owned processName) (Function.update x.state sa toState) state ≤ _
      simpa only [tally_update_of_notMem absent, Function.update_of_ne (Ne.symm own)] using covered

theorem Counted.transit (good : Counted x) {sa : Int} {fromState toState : SystemAbilityState}
    (step : Step x y (.transit sa fromState toState)) : Counted y := by
  obtain ⟨listed, before, enterable, positive, -, after⟩ := step
  exact good.moved listed before enterable positive after

/-- Every change keeps the counting invariant, and no counter update is refused. -/
theorem Step.counted {c : Change} (step : Step x y c) (good : Counted x) : Counted y := by
  cases c with
  | transit sa fromState toState => exact good.transit step
  | countFail sa =>
      obtain ⟨listed, empty, -⟩ := step
      exact absurd empty (good.count_ne_zero listed)
  | process processName toState => obtain ⟨-, -, rfl⟩ := step; exact { good with }
  | dropTimers => obtain ⟨timer, -, rfl⟩ := step; exact { good with }
  | pend sa request => obtain ⟨-, rfl⟩ := step; exact { good with }
  | resetLoad sa => obtain ⟨-, rfl⟩ := step; exact { good with }
  | pendUnload sa => obtain ⟨-, rfl⟩ := step; exact { good with }
  | resetUnload sa => obtain ⟨-, rfl⟩ := step; exact { good with }
  | clearPended sa => cases step; exact { good with }
  | startTimer sa => cases step; exact { good with }
  | handle sa request => cases step; exact { good with }
  | enroll processName => obtain ⟨who, running, -, rfl⟩ := step; exact { good with }

/-- With one context for each entry of a list, the counters are exact. -/
theorem Counted.exact (good : Counted x) {processName : String}
    (same : (x.saList processName).Perm (x.owned processName)) (state : SystemAbilityState) :
    x.count processName state = tally (x.saList processName) x.state state := by
  refine (eq_of_le_of_total (fun state => ?_) ?_ state).symm
  · rw [tally_perm same]
    exact good.covers processName state
  · rw [total_tally, good.total processName]

end Chart

namespace Scheduler

/-- What initialisation has built after some of the profiles. -/
structure Initial (s : Scheduler) : Prop where
  nodup : s.abilityIds.Nodup
  listed : ∀ sa ∈ s.abilityIds, sa ∈ (s.process (s.ownProcessName sa)).saList
  fresh : ∀ sa, (s.ability sa).state = .notLoaded
  counts : ∀ processName state, (s.process processName).abilityStateCountMap state =
    if state = .notLoaded then (s.process processName).saList.length else 0
  log : s.log = []

theorem initial_empty : Initial {} := by
  refine ⟨List.nodup_nil, ?_, fun _ => rfl, ?_, rfl⟩
  · intro sa member
    cases member
  · intro processName state
    simp

section Profile

variable {s : Scheduler} {profile : SaProfile} (named : profile.process ≠ "")
include named

theorem initStateContext_abilityIds : (s.initStateContext profile).abilityIds =
    if profile.saId ∈ s.abilityIds then s.abilityIds else s.abilityIds ++ [profile.saId] := by
  simp only [Scheduler.initStateContext, named, if_false, setProcess]
  split <;> rfl

theorem initStateContext_ability : (s.initStateContext profile).ability =
    Function.update s.ability profile.saId
      { ownProcessContext := profile.process
        systemAbilityId := profile.saId
        isAutoRestart := profile.autoRestart
        independentUnload := profile.independentUnload
        delayUnloadTime := limitDelayUnloadTime profile.delayTime } := by
  simp only [Scheduler.initStateContext, named, if_false, setProcess]
  split <;> rfl

theorem initStateContext_process : (s.initStateContext profile).process =
    Function.update s.process profile.process
      { s.process profile.process with
        saList := (s.process profile.process).saList ++ [profile.saId]
        abilityStateCountMap := Function.update
          (s.process profile.process).abilityStateCountMap .notLoaded
          ((s.process profile.process).abilityStateCountMap .notLoaded + 1) } := by
  simp only [Scheduler.initStateContext, named, if_false, setProcess]
  split <;> rfl

theorem initStateContext_saList (processName : String) :
    ((s.initStateContext profile).process processName).saList =
      (s.process processName).saList ++
        if processName = profile.process then [profile.saId] else [] := by
  rw [initStateContext_process named]
  by_cases same : processName = profile.process <;> simp [same]

theorem initStateContext_ownProcessName (sa : Int) :
    (s.initStateContext profile).ownProcessName sa =
      if sa = profile.saId then profile.process else s.ownProcessName sa := by
  rw [ownProcessName, initStateContext_ability named]
  by_cases same : sa = profile.saId <;> simp [same, ownProcessName]

end Profile

theorem initStateContext_of_unnamed {s : Scheduler} {profile : SaProfile}
    (unnamed : profile.process = "") : s.initStateContext profile = s := by
  simp [Scheduler.initStateContext, unnamed]

theorem initStateContext_log {s : Scheduler} {profile : SaProfile} :
    (s.initStateContext profile).log = s.log := by
  simp only [Scheduler.initStateContext]
  split
  · rfl
  · simp only [setProcess]
    split <;> rfl

theorem Initial.initStateContext {s : Scheduler} (good : Initial s) (profile : SaProfile) :
    Initial (s.initStateContext profile) := by
  by_cases named : profile.process = ""
  · rw [initStateContext_of_unnamed named]
    exact good
  refine ⟨?_, ?_, ?_, ?_, initStateContext_log.trans good.log⟩
  · rw [initStateContext_abilityIds named]
    split
    · exact good.nodup
    · rename_i absent
      exact List.Nodup.append good.nodup (List.nodup_singleton _) (by simpa using absent)
  · intro sa member
    rw [initStateContext_ownProcessName named, initStateContext_saList named]
    by_cases same : sa = profile.saId
    · simp [same]
    · have old : sa ∈ s.abilityIds := by
        rw [initStateContext_abilityIds named] at member
        split at member <;> simp_all
      simp [same, good.listed sa old]
  · intro sa
    rw [initStateContext_ability named]
    by_cases same : sa = profile.saId <;> simp [same, good.fresh]
  · intro processName state
    have counts := good.counts processName state
    rw [initStateContext_saList named, initStateContext_process named]
    by_cases same : processName = profile.process
    · subst same
      cases state <;> simp_all
    · simp [same, counts]

theorem initial_init (profiles : List SaProfile) : Initial (init profiles) := by
  have keeps : ∀ s : Scheduler, Initial s → Initial (profiles.foldl initStateContext s) := by
    induction profiles with
    | nil => exact fun s good => good
    | cons profile rest hypothesis =>
        exact fun s good => hypothesis _ (good.initStateContext profile)
  exact keeps {} initial_empty

theorem Initial.counted {s : Scheduler} (good : Initial s) : s.chart.Counted := by
  have owned : ∀ processName, (s.chart.owned processName).Nodup :=
    fun processName => good.nodup.filter _
  refine ⟨good.nodup, good.listed, ?_, ?_, ?_⟩
  · intro processName
    simp [total, chart, good.counts]
  · intro processName state
    have few : (s.chart.owned processName).length ≤ (s.chart.saList processName).length := by
      refine (List.subperm_of_subset (owned processName) fun sa member => ?_).length_le
      obtain ⟨listed, own⟩ := Chart.mem_owned.mp member
      exact own ▸ good.listed sa listed
    by_cases same : state = .notLoaded
    · subst same
      calc tally (s.chart.owned processName) s.chart.state .notLoaded
          ≤ (s.chart.owned processName).length := List.countP_le_length
        _ ≤ (s.chart.saList processName).length := few
        _ = s.chart.count processName .notLoaded := by simp [chart, good.counts]
    · have none : tally (s.chart.owned processName) s.chart.state state = 0 :=
        tally_eq_zero.mpr fun sa _ => by simpa [chart, good.fresh] using Ne.symm same
      omega
  · rintro ⟨event, member, -⟩
    rw [good.log] at member
    cases member

/-- The counting invariant holds in every reachable state, for any profile list. -/
theorem runFrom_counted (profiles : List SaProfile) (ops : List (Env × Op)) :
    (runFrom profiles ops).chart.Counted :=
  run_keeps Chart.Step.counted ops (initial_init profiles).counted

/-- With distinct ids every entry of a list is an ability of that process. -/
structure OneContext (s : Scheduler) : Prop where
  nodup : ∀ processName, (s.process processName).saList.Nodup
  owned : ∀ processName, ∀ sa ∈ (s.process processName).saList,
    sa ∈ s.abilityIds ∧ s.ownProcessName sa = processName

theorem oneContext_foldl {profiles : List SaProfile} (distinct : (profiles.map SaProfile.saId).Nodup)
    {s : Scheduler} (good : OneContext s)
    (new : ∀ profile ∈ profiles, profile.saId ∉ s.abilityIds) :
    OneContext (profiles.foldl initStateContext s) := by
  induction profiles generalizing s with
  | nil => exact good
  | cons profile rest hypothesis =>
      obtain ⟨apart, distinct⟩ := List.nodup_cons.mp distinct
      have later : ∀ other ∈ rest, other.saId ≠ profile.saId := fun other member same =>
        apart (same ▸ List.mem_map_of_mem member)
      have absent : profile.saId ∉ s.abilityIds := new profile (List.mem_cons_self ..)
      by_cases named : profile.process = ""
      · rw [List.foldl_cons, initStateContext_of_unnamed named]
        exact hypothesis distinct good fun other member => new other (List.mem_cons_of_mem _ member)
      refine hypothesis distinct ⟨?_, ?_⟩ ?_
      · intro processName
        rw [initStateContext_saList named]
        split
        · refine List.Nodup.append (good.nodup processName) (List.nodup_singleton _) ?_
          intro sa member single
          rw [List.mem_singleton.mp single] at member
          exact absent (good.owned processName _ member).1
        · simpa using good.nodup processName
      · intro processName sa member
        rw [initStateContext_saList named] at member
        rw [initStateContext_abilityIds named, initStateContext_ownProcessName named]
        rcases List.mem_append.mp member with old | added
        · obtain ⟨listed, own⟩ := good.owned processName sa old
          have different : sa ≠ profile.saId := fun same => absent (same ▸ listed)
          simp [absent, listed, own, different]
        · split at added
          · rename_i same
            have single : sa = profile.saId := by simpa using added
            simp [absent, single, same]
          · cases added
      · intro other member
        have old := new other (List.mem_cons_of_mem _ member)
        rw [initStateContext_abilityIds named]
        simp [absent, old, later other member]

theorem oneContext_init {profiles : List SaProfile}
    (distinct : (profiles.map SaProfile.saId).Nodup) : OneContext (init profiles) := by
  refine oneContext_foldl distinct ⟨fun _ => List.nodup_nil, fun _ _ member => ?_⟩ fun _ _ => ?_
  · cases member
  · simp

theorem runFrom_sameLayout (profiles : List SaProfile) (ops : List (Env × Op)) :
    Chart.SameLayout (init profiles).chart (runFrom profiles ops).chart :=
  run_keeps (fun step same => same.trans step.sameLayout) ops ⟨rfl, rfl, rfl, rfl⟩

theorem OneContext.perm {s : Scheduler} (one : OneContext s) (good : s.chart.Counted)
    (processName : String) : (s.process processName).saList.Perm (s.chart.owned processName) := by
  refine (List.perm_ext_iff_of_nodup (one.nodup processName) (good.nodup.filter _)).mpr fun sa => ?_
  constructor
  · exact fun member => Chart.mem_owned.mpr (one.owned processName sa member)
  · intro member
    obtain ⟨listed, own⟩ := Chart.mem_owned.mp member
    exact own ▸ good.listed sa listed

theorem runFrom_count {profiles : List SaProfile} (distinct : (profiles.map SaProfile.saId).Nodup)
    (ops : List (Env × Op)) (processName : String) (state : SystemAbilityState) :
    ((runFrom profiles ops).process processName).abilityStateCountMap state =
      tally ((runFrom profiles ops).process processName).saList
        (fun sa => ((runFrom profiles ops).ability sa).state) state := by
  have good := runFrom_counted profiles ops
  have layout := runFrom_sameLayout profiles ops
  have start := (oneContext_init distinct).perm (initial_init profiles).counted processName
  refine good.exact ?_ state
  change ((runFrom profiles ops).chart.saList processName).Perm
    ((runFrom profiles ops).chart.ids.filter fun id =>
      (runFrom profiles ops).chart.own id = processName)
  rw [layout.saList, layout.ids, layout.own]
  exact start

/-- All abilities of a process can be unloaded exactly when none of them is on its way up
or in use and at least one of them is unloadable or unloading. -/
theorem canUnloadAll_iff_of_count {s : Scheduler} {processName : String}
    (exact : ∀ state, (s.process processName).abilityStateCountMap state =
      tally (s.process processName).saList (fun sa => (s.ability sa).state) state) (env : Env) :
    s.canUnloadAllSystemAbilityLocked env processName false = true ↔
      (∀ sa ∈ (s.process processName).saList,
        (s.ability sa).state ≠ .loading ∧ (s.ability sa).state ≠ .loaded) ∧
      ∃ sa ∈ (s.process processName).saList,
        (s.ability sa).state = .unloadable ∨ (s.ability sa).state = .unloading := by
  have sum := total_tally (s.process processName).saList fun sa => (s.ability sa).state
  simp only [canUnloadAllSystemAbilityLocked, exact]
  set states := fun sa => (s.ability sa).state
  set count := tally (s.process processName).saList states with counted
  have noneLoading : count .loading = 0 ↔ ∀ sa ∈ (s.process processName).saList,
      states sa ≠ .loading := tally_eq_zero
  have noneLoaded : count .loaded = 0 ↔ ∀ sa ∈ (s.process processName).saList,
      states sa ≠ .loaded := tally_eq_zero
  have someIdle : ¬ (count .unloadable = 0 ∧ count .unloading = 0) ↔
      ∃ sa ∈ (s.process processName).saList, states sa = .unloadable ∨ states sa = .unloading := by
    simp only [counted, tally_eq_zero, not_and_or, not_forall, not_not, exists_prop]
    constructor
    · rintro (⟨sa, member, state⟩ | ⟨sa, member, state⟩)
      · exact ⟨sa, member, Or.inl state⟩
      · exact ⟨sa, member, Or.inr state⟩
    · rintro ⟨sa, member, state | state⟩
      · exact Or.inl ⟨sa, member, state⟩
      · exact Or.inr ⟨sa, member, state⟩
  have idle : count .notLoaded + count .unloadable + count .unloading =
      (s.process processName).saList.length ↔ count .loading = 0 ∧ count .loaded = 0 := by
    simp only [total] at sum
    omega
  simp only [forall_and]
  rw [← noneLoading, ← noneLoaded, ← someIdle, ← idle]
  by_cases none : count .unloadable = 0 ∧ count .unloading = 0 <;> simp [none]

theorem canKill_iff_of_count {s : Scheduler} {processName : String}
    (exact : ∀ state, (s.process processName).abilityStateCountMap state =
      tally (s.process processName).saList (fun sa => (s.ability sa).state) state) :
    s.canKillSystemProcessLocked processName = true ↔
      ∀ sa ∈ (s.process processName).saList, (s.ability sa).state = .notLoaded := by
  simp only [canKillSystemProcessLocked, exact, beq_iff_eq, tally, List.countP_eq_length,
    decide_eq_true_eq]

/-- In every reachable state the counters of a process are the numbers of its abilities in
each state, no transition was ever refused for its counter, and the two decisions taken
from the counters are decisions about the abilities. -/
theorem abilityStateCountMap_mirrors_states (saProfiles : List SaProfile)
    (distinct : (saProfiles.map SaProfile.saId).Nodup) (ops : List (Env × Op)) :
    let s := runFrom saProfiles ops
    (∀ processName ∈ s.processNames,
      (∀ state, (s.process processName).abilityStateCountMap state =
        tally (s.process processName).saList (fun sa => (s.ability sa).state) state) ∧
      total (s.process processName).abilityStateCountMap = (s.process processName).saList.length ∧
      (∀ env, s.canUnloadAllSystemAbilityLocked env processName false = true ↔
        (∀ sa ∈ (s.process processName).saList,
          (s.ability sa).state ≠ .loading ∧ (s.ability sa).state ≠ .loaded) ∧
        ∃ sa ∈ (s.process processName).saList,
          (s.ability sa).state = .unloadable ∨ (s.ability sa).state = .unloading) ∧
      (s.canKillSystemProcessLocked processName = true ↔
        ∀ sa ∈ (s.process processName).saList, (s.ability sa).state = .notLoaded)) ∧
    ∀ sa current next, Event.transition sa current next .updateStateCountFail ∉ s.log := by
  intro s
  have exact := runFrom_count distinct ops
  have good : s.chart.Counted := runFrom_counted saProfiles ops
  refine ⟨fun processName _ => ⟨exact processName, good.total processName, ?_, ?_⟩, ?_⟩
  · exact canUnloadAll_iff_of_count (exact processName)
  · exact canKill_iff_of_count (exact processName)
  · intro sa current next member
    exact good.sound ⟨_, member, sa, current, next, rfl⟩

/-- Ability 1 unloads independently and is loaded, unloaded from inside its own entry into
UNLOADABLE, asked for again while it is UNLOADING, and loaded again when its process stops. -/
def replayOps : List (Env × Op) :=
  [({}, .processEvent ⟨"host", 100, 1000⟩ .processStartedEvent),
   ({}, .load (localLoad 1 7 70)),
   ({}, .abilityEvent 1 .abilityLoadSuccessEvent),
   ({}, .unload (some (localUnload 1 7))),
   ({}, .load (localLoad 1 8 80)),
   ({}, .processEvent ⟨"host", 100, 1000⟩ .processStoppedEvent)]

def replayProfiles : List SaProfile :=
  [{ process := "host", saId := 1, independentUnload := true }, { process := "host", saId := 2 }]

theorem abilityStateCountMap_after_replay :
    ((runFrom replayProfiles replayOps).process "host").abilityStateCountMap .loading = 1 ∧
    ((runFrom replayProfiles replayOps).canKillSystemProcessLocked "host" = true ↔
      ∀ sa ∈ ((runFrom replayProfiles replayOps).process "host").saList,
        ((runFrom replayProfiles replayOps).ability sa).state = .notLoaded) :=
  ⟨by decide +kernel, ((abilityStateCountMap_mirrors_states replayProfiles (by decide) replayOps).1 "host"
    (by decide +kernel)).2.2.2⟩

end Scheduler

end Samgr
