import Samgr.Lib.Runs
import Mathlib.Data.Nat.Init

/-! Endless runs. A run is a step function followed along an endless sequence of labels. Fairness says that
turns of a kind come again and again; what waits with a rank that no step raises and every turn lowers then
reaches its goal. -/
namespace Runs

section Times

variable {holds turn goal : Nat → Prop} {waits : Nat → Nat → Prop}

/-- It happens again and again. -/
def Again (turn : Nat → Prop) : Prop := ∀ n, ∃ m, n ≤ m ∧ turn m

/-- What each moment keeps unless the goal is reached holds as long as it is not reached. -/
theorem holds_until (keep : ∀ n, holds n → goal (n + 1) ∨ holds (n + 1)) {n m : Nat} (later : n ≤ m)
    (start : holds n) : (∃ k, n ≤ k ∧ goal k) ∨ holds m := by
  induction m, later using Nat.le_induction with
  | base => exact .inr start
  | succ m later hypothesis =>
      rcases hypothesis with reached | before
      · exact .inl reached
      · rcases keep m before with reached | after
        · exact .inl ⟨m + 1, Nat.le_succ_of_le later, reached⟩
        · exact .inr after

/-- The rule of one turn: what waits until a turn that is bound to come reaches its goal. -/
theorem reached_of_turn {n : Nat} (comes : ∃ m, n ≤ m ∧ turn m)
    (keep : ∀ m, n ≤ m → holds m → goal (m + 1) ∨ (¬ turn m ∧ holds (m + 1))) (start : holds n) :
    ∃ m, n ≤ m ∧ goal m := by
  obtain ⟨m, later, turns⟩ := comes
  have along := @holds_until (fun k => n ≤ k → holds k) goal
    (fun k waiting => by
      by_cases behind : n ≤ k
      · rcases keep k behind (waiting behind) with reached | ⟨-, stays⟩
        · exact .inl reached
        · exact .inr fun _ => stays
      · refine .inr fun next => ?_
        have first : k + 1 = n := by omega
        exact first ▸ start)
    n m later fun _ => start
  rcases along with reached | waiting
  · exact reached
  · rcases keep m later (waiting later) with reached | ⟨still, -⟩
    · exact ⟨m + 1, Nat.le_succ_of_le later, reached⟩
    · exact absurd turns still

/-- The rule of the rank. -/
theorem reached_of_rank (fair : Again turn)
    (keep : ∀ n r, waits n r → goal (n + 1) ∨
      ∃ left, waits (n + 1) left ∧ left ≤ r ∧ (turn n → left < r))
    {n r : Nat} (start : waits n r) : ∃ m, n ≤ m ∧ goal m := by
  induction r using Nat.strong_induction_on generalizing n with
  | h r hypothesis =>
      obtain ⟨m, later, turns⟩ := fair n
      have along := @holds_until (fun k => ∃ left, waits k left ∧ left ≤ r) goal
        (fun k ⟨left, waiting, low⟩ => (keep k left waiting).imp_right
          fun ⟨next, stays, lower, _⟩ => ⟨next, stays, Nat.le_trans lower low⟩)
        n m later ⟨r, start, Nat.le_refl r⟩
      rcases along with reached | ⟨left, waiting, low⟩
      · exact reached
      · rcases keep m left waiting with reached | ⟨next, stays, -, lower⟩
        · exact ⟨m + 1, Nat.le_succ_of_le later, reached⟩
        · obtain ⟨k, after, reached⟩ := hypothesis next (Nat.lt_of_lt_of_le (lower turns) low) stays
          exact ⟨k, by omega, reached⟩

end Times

variable {State Label : Type*} (step : State → Label → State) (s : State) (labels : Nat → Label)

/-- The state after the first `n` labels. -/
def stateAt : Nat → State
  | 0 => s
  | n + 1 => step (stateAt n) (labels n)

variable {step s labels}

/-- What every step that meets its condition keeps holds at every moment. -/
theorem stateAt_invariant {cond : State → Label → Prop} (inv : State → Prop)
    (keep : ∀ s l, cond s l → inv s → inv (step s l))
    (good : ∀ n, cond (stateAt step s labels n) (labels n)) {n m : Nat} (later : n ≤ m)
    (start : inv (stateAt step s labels n)) : inv (stateAt step s labels m) := by
  induction m, later using Nat.le_induction with
  | base => exact start
  | succ m _ hypothesis => exact keep _ _ (good m) hypothesis

end Runs
