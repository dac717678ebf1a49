import Mathlib.Data.List.Induction
import Samgr.Lib.Runs

/-! What a run leaves of its history. A register that some labels write and the others leave alone holds
the value of the latest of these labels. -/
namespace Latest

variable {State Label Value : Type} {verdict : Label → Option Value}

/-- The verdict of the latest label that has one. -/
def latest (verdict : Label → Option Value) (labels : List Label) : Option Value :=
  labels.reverse.findSome? verdict

theorem latest_append {labels : List Label} {label : Label} :
    latest verdict (labels ++ [label]) = (verdict label).or (latest verdict labels) := by
  rw [latest, List.reverse_append, List.reverse_singleton, List.singleton_append, List.findSome?_cons]
  cases verdict label with
  | none => rfl
  | some value => rfl

/-- The register after a run, while the invariant lasts that the writes rely on. -/
theorem run_latest (step : State → Label → State) (read : State → Value) (verdict : Label → Option Value)
    (inv : State → Prop) (keep : ∀ s label, inv s → inv (step s label))
    (writes : ∀ s label, inv s → read (step s label) = (verdict label).getD (read s)) {s : State}
    (start : inv s) (labels : List Label) :
    read (Runs.run step s labels) = (latest verdict labels).getD (read s) := by
  induction labels using List.reverseRecOn with
  | nil => rfl
  | append_singleton labels label hypothesis =>
      have kept : inv (Runs.run step s labels) := Runs.run_invariant inv keep labels start
      rw [Runs.run_append, latest_append]
      refine (writes _ label kept).trans ?_
      rw [hypothesis]
      cases verdict label with
      | none => rfl
      | some value => rfl

theorem latest_map {Other : Type} {other : Label → Option Other} {f : Value → Other}
    (same : ∀ label, other label = (verdict label).map f) (labels : List Label) :
    latest other labels = (latest verdict labels).map f := by
  induction labels using List.reverseRecOn with
  | nil => rfl
  | append_singleton labels label hypothesis =>
      rw [latest_append, latest_append, hypothesis, same]
      cases verdict label with
      | none => rfl
      | some value => rfl

end Latest
