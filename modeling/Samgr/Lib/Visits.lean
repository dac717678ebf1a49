import Mathlib.Logic.Function.Basic
import Samgr.Lib.Runs

/-! Calls that go round places with an owner each. What a place comes to depends on the visits to it,
and on nothing that happens elsewhere. -/
namespace Visits

variable {Place Instance Action Answer State Event : Type}

/-- What there is at each place. -/
abbrev Store (Place Instance : Type) : Type := Place → Option Instance

section Visiting

variable [DecidableEq Place] (act : Instance → Action → Instance × Answer)

/-- The visits are paid in their order, and a place where nobody is has no answer. A strict call gives
up at the first of these. -/
def visit (strict : Bool) : Store Place Instance → List (Place × Action) →
    Store Place Instance × List (Option Answer)
  | store, [] => (store, [])
  | store, (place, action) :: rest =>
      match store place with
      | none =>
          if strict then (store, [none])
          else
            let later := visit strict store rest
            (later.1, none :: later.2)
      | some owner =>
          let done := act owner action
          let later := visit strict (Function.update store place (some done.1)) rest
          (later.1, some done.2 :: later.2)

variable {act} {strict : Bool} {store other : Store Place Instance} {place : Place}
  {visits : List (Place × Action)}

/-- Where nobody comes, nothing changes. -/
theorem visit_elsewhere (apart : place ∉ visits.map Prod.fst) :
    (visit act strict store visits).1 place = store place := by
  induction visits generalizing store with
  | nil => rfl
  | cons head rest hypothesis =>
      obtain ⟨first, action⟩ := head
      rw [List.map_cons, List.mem_cons, not_or] at apart
      rw [visit]
      split
      · split
        · rfl
        · exact hypothesis apart.2
      · exact (hypothesis apart.2).trans (Function.update_of_ne apart.1 _ _)

/-- Visits that only look change nothing anywhere. -/
theorem visit_looking (looks : ∀ owner action, (act owner action).1 = owner) :
    (visit act strict store visits).1 = store := by
  induction visits generalizing store with
  | nil => rfl
  | cons head rest hypothesis =>
      obtain ⟨first, action⟩ := head
      rw [visit]
      split
      · split
        · rfl
        · exact hypothesis
      · rename_i owner found
        refine hypothesis.trans ?_
        rw [looks, ← found, Function.update_eq_self]

/-- What a place comes to is decided by what was there. -/
theorem visit_local (agree : store place = other place) :
    (visit act false store visits).1 place = (visit act false other visits).1 place := by
  induction visits generalizing store other with
  | nil => exact agree
  | cons head rest hypothesis =>
      obtain ⟨first, action⟩ := head
      by_cases same : first = place
      · subst same
        cases found : other first with
        | none =>
            rw [visit, visit, agree, found]
            exact hypothesis agree
        | some owner =>
            rw [visit, visit, agree, found]
            exact hypothesis (by rw [Function.update_self, Function.update_self])
      · have apart : ∀ (store : Store Place Instance), ∃ later,
            (visit act false store ((first, action) :: rest)).1 = (visit act false later rest).1 ∧
              later place = store place := by
          intro store
          cases found : store first with
          | none =>
              refine ⟨store, ?_, rfl⟩
              rw [visit, found]
              rfl
          | some owner =>
              refine ⟨Function.update store first (some (act owner action).1), ?_,
                Function.update_of_ne (Ne.symm same) _ _⟩
              rw [visit, found]
        obtain ⟨one, first, kept⟩ := apart store
        obtain ⟨two, second, left⟩ := apart other
        rw [first, second]
        exact hypothesis (kept.trans (agree.trans left.symm))

/-- Nobody comes or goes. -/
theorem visit_isSome : ((visit act strict store visits).1 place).isSome = (store place).isSome := by
  induction visits generalizing store with
  | nil => rfl
  | cons head rest hypothesis =>
      obtain ⟨first, action⟩ := head
      rw [visit]
      split
      · split
        · rfl
        · exact hypothesis
      · rename_i owner found
        refine hypothesis.trans ?_
        by_cases same : place = first
        · rw [same, Function.update_self, found]
          rfl
        · rw [Function.update_of_ne same]

/-- What comes back is decided by what is there at the places that are visited. -/
theorem visit_answers (agree : ∀ visited ∈ visits, store visited.1 = other visited.1) :
    (visit act strict store visits).2 = (visit act strict other visits).2 := by
  induction visits generalizing store other with
  | nil => rfl
  | cons head rest hypothesis =>
      obtain ⟨first, action⟩ := head
      have here := agree (first, action) List.mem_cons_self
      have later : ∀ visited ∈ rest, store visited.1 = other visited.1 := fun visited inside =>
        agree visited (List.mem_cons_of_mem _ inside)
      cases found : other first with
      | none =>
          simp only [visit, here, found]
          split
          · rfl
          · exact congrArg (none :: ·) (hypothesis later)
      | some owner =>
          simp only [visit, here, found]
          refine congrArg (some _ :: ·) (hypothesis fun visited inside => ?_)
          by_cases same : visited.1 = first
          · rw [same, Function.update_self, Function.update_self]
          · rw [Function.update_of_ne same, Function.update_of_ne same]
            exact later visited inside

end Visiting

section Apart

/-- What it takes for a part of a state to be apart from the rest: `Same` says that two states agree
on the part, and an event that does not concern the part leaves it alone. -/
structure Unwinds (step : State → Event → State) (Same : State → State → Prop) (plain : Event → Prop)
    (concerns : Event → Bool) : Prop where
  symm : ∀ {s t}, Same s t → Same t s
  trans : ∀ {s t u}, Same s t → Same t u → Same s u
  decides : ∀ {s t event}, plain event → Same s t → Same (step s event) (step t event)
  keeps : ∀ {s t event}, plain event → concerns event = false → Same s t → Same (step s event) t

namespace Unwinds

variable {step : State → Event → State} {Same : State → State → Prop} {plain : Event → Prop}
  {concerns : Event → Bool} {s t : State} {events others : List Event}

/-- The events that do not concern the part may as well not have happened. -/
theorem run_purged (good : Unwinds step Same plain concerns) (agree : Same s t)
    (all : ∀ event ∈ events, plain event) :
    Same (Runs.run step s events) (Runs.run step t (events.filter concerns)) := by
  induction events generalizing s t with
  | nil => exact agree
  | cons event events hypothesis =>
      have first := all event List.mem_cons_self
      have rest : ∀ later ∈ events, plain later := fun later inside =>
        all later (List.mem_cons_of_mem event inside)
      cases concerned : concerns event with
      | true =>
          rw [List.filter_cons_of_pos concerned]
          exact hypothesis (good.decides first agree) rest
      | false =>
          rw [List.filter_cons_of_neg (by simp [concerned])]
          exact hypothesis (good.keeps first concerned agree) rest

/-- Two runs with the same events of concern agree on the part. -/
theorem run_apart (good : Unwinds step Same plain concerns) (agree : Same s t)
    (all : ∀ event ∈ events, plain event) (alsoAll : ∀ event ∈ others, plain event)
    (same : events.filter concerns = others.filter concerns) :
    Same (Runs.run step s events) (Runs.run step t others) := by
  have left : Same (Runs.run step s events) (Runs.run step t (others.filter concerns)) :=
    same ▸ good.run_purged agree all
  have right : Same (Runs.run step t others) (Runs.run step t (others.filter concerns)) :=
    good.run_purged (good.trans (good.symm agree) agree) alsoAll
  exact good.trans left (good.symm right)

end Unwinds

end Apart

end Visits
