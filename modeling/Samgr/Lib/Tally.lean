import Mathlib.Data.List.Basic
import Mathlib.Data.List.Nodup
import Mathlib.Logic.Function.Basic

/-! Counting the members of a list by a label, while the label of one member changes. -/
namespace Tally

variable {Item Label : Type*} [DecidableEq Label]

/-- How many members of the list carry the label. -/
def tally (items : List Item) (f : Item → Label) (label : Label) : Nat :=
  items.countP fun item => f item = label

theorem tally_cons (item : Item) (items : List Item) (f : Item → Label) (label : Label) :
    tally (item :: items) f label = tally items f label + if f item = label then 1 else 0 := by
  simp [tally, List.countP_cons]

theorem tally_snoc (items : List Item) (item : Item) (f : Item → Label) (label : Label) :
    tally (items ++ [item]) f label = tally items f label + if f item = label then 1 else 0 := by
  simp [tally, List.countP_append, List.countP_cons]

theorem tally_update_of_notMem [DecidableEq Item] {items : List Item} {item : Item} (absent : item ∉ items)
    (f : Item → Label) (new label : Label) :
    tally items (Function.update f item new) label = tally items f label := by
  refine List.countP_congr fun other member => ?_
  have distinct : other ≠ item := fun same => absent (same ▸ member)
  simp [Function.update_of_ne distinct]

/-- Relabelling one member takes it from its old label and adds it to the new one. -/
theorem tally_update [DecidableEq Item] {items : List Item} (nodup : items.Nodup) {item : Item}
    (member : item ∈ items) (f : Item → Label) (new label : Label) :
    tally items (Function.update f item new) label + (if f item = label then 1 else 0) =
      tally items f label + if new = label then 1 else 0 := by
  induction items with
  | nil => cases member
  | cons head tail hypothesis =>
      obtain ⟨absent, nodup⟩ := List.nodup_cons.mp nodup
      rcases List.mem_cons.mp member with rfl | member
      · simp only [tally_cons, Function.update_self, tally_update_of_notMem absent]
        omega
      · have distinct : head ≠ item := fun same => absent (same ▸ member)
        have rest := hypothesis nodup member
        simp only [tally_cons, Function.update_of_ne distinct]
        omega

theorem tally_pos {items : List Item} {item : Item} (member : item ∈ items) (f : Item → Label) :
    0 < tally items f (f item) :=
  List.countP_pos_iff.mpr ⟨item, member, by simp⟩

theorem tally_perm {items others : List Item} (same : items.Perm others) (f : Item → Label)
    (label : Label) : tally items f label = tally others f label :=
  same.countP_eq _

theorem tally_eq_zero {items : List Item} {f : Item → Label} {label : Label} :
    tally items f label = 0 ↔ ∀ item ∈ items, f item ≠ label := by
  simp [tally, List.countP_eq_zero]

end Tally
