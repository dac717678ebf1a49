import Mathlib.Logic.Relation
import Mathlib.Data.List.Basic

/-! Runs of a labelled deterministic step function. A run is a fold over its
labels, so a property of every label list is a property of every reachable state,
and of every prefix of a run. -/
namespace Runs

variable {State Label : Type*} (step : State → Label → State)

/-- The state reached from `s` by the labels, taken in order. -/
def run (s : State) (labels : List Label) : State := labels.foldl step s

/-- Every step of the run meets `cond` in the state just before it. -/
def Guarded (cond : State → Label → Prop) : State → List Label → Prop
  | _, [] => True
  | s, l :: ls => cond s l ∧ Guarded cond (step s l) ls

instance decidableGuarded (cond : State → Label → Prop) [∀ s l, Decidable (cond s l)] :
    (s : State) → (ls : List Label) → Decidable (Guarded step cond s ls)
  | _, [] => isTrue trivial
  | s, l :: ls => @instDecidableAnd _ _ inferInstance (decidableGuarded cond (step s l) ls)

@[simp] theorem run_nil (s : State) : run step s [] = s := rfl

@[simp] theorem run_cons (s : State) (l : Label) (ls : List Label) :
    run step s (l :: ls) = run step (step s l) ls := rfl

theorem run_append (s : State) (ls ms : List Label) :
    run step s (ls ++ ms) = run step (run step s ls) ms :=
  List.foldl_append

/-- What each label can only bring about, some label of the run has brought about. -/
theorem run_adds (holds : State → Prop) {brings : Label → Prop}
    (one : ∀ s l, holds (step s l) ↔ holds s ∨ brings l) (s : State) (ls : List Label) :
    holds (run step s ls) ↔ holds s ∨ ∃ l ∈ ls, brings l := by
  induction ls generalizing s with
  | nil => simp
  | cons l ls hypothesis => rw [run_cons, hypothesis, one, List.exists_mem_cons_iff, or_assoc]

/-- What each label can only take away, no label of the run has taken away. -/
theorem run_removes (holds : State → Prop) {takes : Label → Prop}
    (one : ∀ s l, holds (step s l) ↔ holds s ∧ ¬ takes l) (s : State) (ls : List Label) :
    holds (run step s ls) ↔ holds s ∧ ¬ ∃ l ∈ ls, takes l := by
  induction ls generalizing s with
  | nil => simp
  | cons l ls hypothesis =>
      rw [run_cons, hypothesis, one, List.exists_mem_cons_iff, not_or, and_assoc]

variable {step} {cond : State → Label → Prop}

theorem guarded_append {s : State} {ls ms : List Label} :
    Guarded step cond s (ls ++ ms) ↔
      Guarded step cond s ls ∧ Guarded step cond (run step s ls) ms := by
  induction ls generalizing s with
  | nil => simp [Guarded]
  | cons l ls hypothesis => simp [Guarded, hypothesis, and_assoc]

theorem Guarded.mono {other : State → Label → Prop} {s : State} {ls : List Label}
    (good : Guarded step cond s ls) (weaker : ∀ s l, cond s l → other s l) :
    Guarded step other s ls := by
  induction ls generalizing s with
  | nil => trivial
  | cons l ls hypothesis => exact ⟨weaker s l good.1, hypothesis good.2⟩

theorem Guarded.and {other : State → Label → Prop} {s : State} {ls : List Label}
    (good : Guarded step cond s ls) (more : Guarded step other s ls) :
    Guarded step (fun s l => cond s l ∧ other s l) s ls := by
  induction ls generalizing s with
  | nil => trivial
  | cons l ls hypothesis => exact ⟨⟨good.1, more.1⟩, hypothesis good.2 more.2⟩

/-- What an invariant of a guarded run gives of each step is a condition of the run. -/
theorem Guarded.along (inv : State → Prop) {other : State → Label → Prop}
    (keep : ∀ s l, cond s l → inv s → inv (step s l)) (gives : ∀ s l, cond s l → inv s → other s l)
    {s : State} {ls : List Label} (good : Guarded step cond s ls) (start : inv s) :
    Guarded step other s ls := by
  induction ls generalizing s with
  | nil => trivial
  | cons l ls hypothesis => exact ⟨gives s l good.1 start, hypothesis good.2 (keep s l good.1 start)⟩

/-- A condition on the labels alone. -/
theorem guarded_of_forall {holds : Label → Prop} {ls : List Label} (all : ∀ l ∈ ls, holds l)
    (s : State) : Guarded step (fun _ l => holds l) s ls := by
  induction ls generalizing s with
  | nil => trivial
  | cons l ls hypothesis =>
      refine ⟨all l List.mem_cons_self, hypothesis (fun m inside => ?_) (step s l)⟩
      exact all m (List.mem_cons_of_mem l inside)

/-- A condition on the state alone holds before every step if it holds after every prefix. -/
theorem guarded_of_prefix {holds : State → Prop} {s : State} {ls : List Label}
    (along : ∀ before, before <+: ls → holds (run step s before)) :
    Guarded step (fun s _ => holds s) s ls := by
  induction ls generalizing s with
  | nil => trivial
  | cons l ls hypothesis =>
      refine ⟨along [] (List.nil_prefix), hypothesis fun before ahead => ?_⟩
      exact along (l :: before) (List.prefix_cons_inj l |>.mpr ahead)

/-- What every guarded step keeps, every guarded run keeps. -/
theorem guarded_invariant (inv : State → Prop)
    (keep : ∀ s l, cond s l → inv s → inv (step s l))
    {s : State} {ls : List Label} (good : Guarded step cond s ls) (start : inv s) :
    inv (run step s ls) := by
  induction ls generalizing s with
  | nil => exact start
  | cons l ls hypothesis => exact hypothesis good.2 (keep s l good.1 start)

/-- The same rule for a step that keeps the property without any condition. -/
theorem run_invariant (inv : State → Prop) (keep : ∀ s l, inv s → inv (step s l))
    {s : State} (ls : List Label) (start : inv s) : inv (run step s ls) := by
  induction ls generalizing s with
  | nil => exact start
  | cons l ls hypothesis => exact hypothesis (keep s l start)

/-- When an invariant is kept by guarded steps, and an unguarded step loses what it promises,
the promise holds all along a run exactly when every step is guarded. The rule may assume
`given` of every step. -/
theorem forall_prefix_iff_guarded_of (inv : State → Prop) {promise : State → Prop}
    {given : State → Label → Prop}
    (keep : ∀ s l, given s l → cond s l → inv s → inv (step s l)) (holds : ∀ s, inv s → promise s)
    (breaks : ∀ s l, given s l → inv s → ¬ cond s l → ¬ promise (step s l))
    {s : State} {ls : List Label} (assumed : Guarded step given s ls) (start : inv s) :
    (∀ before, before <+: ls → promise (run step s before)) ↔ Guarded step cond s ls := by
  induction ls generalizing s with
  | nil =>
      simp only [List.prefix_nil, forall_eq, run_nil, Guarded, iff_true]
      exact holds s start
  | cons l ls hypothesis =>
      constructor
      · intro along
        have first : cond s l := by
          by_contra unguarded
          exact breaks s l assumed.1 start unguarded (along [l] (by simp))
        have next := keep s l assumed.1 first start
        refine ⟨first, (hypothesis assumed.2 next).mp fun before ahead => ?_⟩
        exact along (l :: before) (List.prefix_cons_inj l |>.mpr ahead)
      · rintro ⟨first, rest⟩ before ahead
        cases before with
        | nil => exact holds s start
        | cons m before =>
            obtain ⟨rfl, shorter⟩ := List.cons_prefix_cons.mp ahead
            exact (hypothesis assumed.2 (keep s m assumed.1 first start)).mpr rest before shorter

/-- When an invariant makes what one step promises equivalent to a condition that keeps it, every
step of a run does what it promises exactly when every step meets the condition. -/
theorem guarded_iff_guarded (inv : State → Prop) {promise : State → Label → Prop}
    (one : ∀ s l, inv s → (promise s l ↔ cond s l)) (keep : ∀ s l, inv s → cond s l → inv (step s l))
    {s : State} (ls : List Label) (start : inv s) :
    Guarded step promise s ls ↔ Guarded step cond s ls := by
  induction ls generalizing s with
  | nil => exact Iff.rfl
  | cons l ls hypothesis =>
      simp only [Guarded, one s l start]
      exact and_congr_right fun first => hypothesis (keep s l start first)

theorem guarded_trivial (s : State) (ls : List Label) : Guarded step (fun _ _ => True) s ls := by
  induction ls generalizing s with
  | nil => trivial
  | cons l ls hypothesis => exact ⟨trivial, hypothesis (step s l)⟩

/-- A condition that is never asked for. -/
theorem guarded_never {other : State → Label → Prop} (s : State) (ls : List Label) :
    Guarded step (fun s l => False → other s l) s ls :=
  (guarded_trivial s ls).mono fun _ _ _ never => never.elim

/-- The same rule with nothing assumed. -/
theorem forall_prefix_iff_guarded (inv : State → Prop) {promise : State → Prop}
    (keep : ∀ s l, cond s l → inv s → inv (step s l)) (holds : ∀ s, inv s → promise s)
    (breaks : ∀ s l, inv s → ¬ cond s l → ¬ promise (step s l))
    {s : State} {ls : List Label} (start : inv s) :
    (∀ before, before <+: ls → promise (run step s before)) ↔ Guarded step cond s ls :=
  forall_prefix_iff_guarded_of inv (fun s l _ => keep s l) holds (fun s l _ => breaks s l)
    (guarded_trivial s ls) start

/-- A path of steps of a relation keeps what each of its steps keeps. -/
theorem path_invariant {relation : State → State → Prop} {inv : State → Prop}
    (keep : ∀ {s t}, relation s t → inv s → inv t) {s t : State}
    (path : Relation.ReflTransGen relation s t) (start : inv s) : inv t := by
  induction path with
  | refl => exact start
  | tail _ last hypothesis => exact keep last hypothesis

end Runs
