import Mathlib.Data.List.Basic

/-! Items handled one after another until one is rejected. What the items before it have done
stays, so the state is left alone exactly when none of them had anything to do. -/
namespace Fallible

variable {State Item : Type*} (step : State → Item → State × Bool)

/-- The state when the handling ends, and whether every item was accepted. -/
def run : State → List Item → State × Bool
  | s, [] => (s, true)
  | s, item :: items => if (step s item).2 then run (step s item).1 items else step s item

/-- The items that are accepted in the state as it is. -/
def accepted (s : State) (items : List Item) : List Item :=
  items.takeWhile fun item => (step s item).2

@[simp] theorem run_nil (s : State) : run step s [] = (s, true) := rfl

variable {step}

theorem run_rejected {s : State} {item : Item} (rejected : (step s item).2 = false)
    (items : List Item) : run step s (item :: items) = step s item := by
  simp [run, rejected]

theorem run_accepted {s : State} {item : Item} (taken : (step s item).2 = true)
    (items : List Item) : run step s (item :: items) = run step (step s item).1 items := by
  simp [run, taken]

/-- What relates the states before and after, if everything is accepted. -/
theorem run_taken (rel : State → List Item → State → Prop) (nil : ∀ s, rel s [] s)
    (cons : ∀ {s item items t}, (step s item).2 = true → rel (step s item).1 items t →
      rel s (item :: items) t)
    {s : State} {items : List Item} (all : (run step s items).2 = true) :
    rel s items (run step s items).1 := by
  induction items generalizing s with
  | nil => exact nil s
  | cons item items hypothesis =>
      cases taken : (step s item).2
      · rw [run_rejected taken, taken] at all
        cases all
      · rw [run_accepted taken] at all ⊢
        exact cons taken (hypothesis all)

/-- A list goes on behind another only if all of the other is accepted. -/
theorem run_append (s : State) (items others : List Item) :
    run step s (items ++ others) =
      if (run step s items).2 then run step (run step s items).1 others else run step s items := by
  induction items generalizing s with
  | nil => simp
  | cons item items hypothesis =>
      cases taken : (step s item).2
      · simp [run_rejected taken, taken]
      · rw [List.cons_append, run_accepted taken, run_accepted taken]
        exact hypothesis _

/-- What every item keeps, the whole handling keeps. -/
theorem run_keeps (inv : State → Prop) (items : List Item)
    (keep : ∀ {s : State} {item : Item}, item ∈ items → inv s → inv (step s item).1)
    {s : State} (start : inv s) : inv (run step s items).1 := by
  induction items generalizing s with
  | nil => exact start
  | cons item items hypothesis =>
      have next : inv (step s item).1 := keep List.mem_cons_self start
      by_cases taken : (step s item).2 = true
      · rw [run_accepted taken]
        exact hypothesis (fun member => keep (List.mem_cons_of_mem _ member)) next
      · rw [run_rejected (by simpa using taken)]
        exact next

/-- What an accepted item brings about, a handling that accepts everything brings about for
each of its items, if no later item takes it back. -/
theorem run_gives {gives : Item → State → Prop} (items : List Item)
    (give : ∀ {s : State} {item : Item}, item ∈ items → (step s item).2 = true →
      gives item (step s item).1)
    (last : ∀ {s : State} {item other : Item}, other ∈ items → gives item s →
      gives item (step s other).1)
    {s : State} (all : (run step s items).2 = true) {item : Item} (member : item ∈ items) :
    gives item (run step s items).1 := by
  induction items generalizing s with
  | nil => cases member
  | cons first items hypothesis =>
      by_cases taken : (step s first).2 = true
      · rw [run_accepted taken] at all ⊢
        rcases List.mem_cons.mp member with rfl | member
        · exact run_keeps (gives item) items
            (fun inside => last (List.mem_cons_of_mem _ inside)) (give List.mem_cons_self taken)
        · exact hypothesis (fun inside => give (List.mem_cons_of_mem _ inside))
            (fun inside => last (List.mem_cons_of_mem _ inside)) all member
      · rw [run_rejected (by simpa using taken)] at all
        exact absurd all taken

/-- Where the acceptance of an item is a matter of the item alone, all of them decide together. -/
theorem run_ends_iff {good : Item → Prop} (one : ∀ s item, (step s item).2 = true ↔ good item)
    (s : State) (items : List Item) : (run step s items).2 = true ↔ ∀ item ∈ items, good item := by
  induction items generalizing s with
  | nil => simp
  | cons item items hypothesis =>
      rw [List.forall_mem_cons, ← one s item]
      by_cases taken : (step s item).2 = true
      · rw [run_accepted taken, hypothesis]
        simp [taken]
      · rw [run_rejected (by simpa using taken)]
        simp [taken]

/-- Items that are passed over need not be there. -/
theorem run_filterMap {Source : Type*} {select : Source → Option Item}
    {outer : State → Source → State × Bool}
    (passed : ∀ {s source}, select source = none → outer s source = (s, true))
    (through : ∀ {s source item}, select source = some item → outer s source = step s item)
    (s : State) (sources : List Source) : run outer s sources = run step s (sources.filterMap select) := by
  induction sources generalizing s with
  | nil => rfl
  | cons source sources hypothesis =>
      rw [List.filterMap_cons]
      cases selected : select source with
      | none => simp [run, passed selected, hypothesis]
      | some item => simp only [run, through selected, hypothesis]

section Growth

/-- Every item only adds to the state, a rejected one adds nothing, and two states that each
contain the other are handled alike. -/
structure Grows (le : State → State → Prop) (step : State → Item → State × Bool) : Prop where
  refl : ∀ s, le s s
  trans : ∀ {s t u}, le s t → le t u → le s u
  grow : ∀ s item, le s (step s item).1
  reject : ∀ {s item}, (step s item).2 = false → le (step s item).1 s
  alike : ∀ {s t}, le s t → le t s → ∀ item, (step s item).2 = (step t item).2
  same : ∀ {s t}, le s t → le t s → ∀ item, le (step s item).1 (step t item).1

variable {le : State → State → Prop}

theorem Grows.run (grows : Grows le step) (s : State) (items : List Item) :
    le s (run step s items).1 :=
  run_keeps (fun t => le s t) items (fun _ before => grows.trans before (grows.grow _ _))
    (grows.refl s)

theorem Grows.accepted_eq (grows : Grows le step) {s t : State} (up : le s t) (down : le t s)
    (items : List Item) : accepted step s items = accepted step t items := by
  simp only [accepted, grows.alike up down]

theorem Grows.inert_of_same (grows : Grows le step) {s t : State} {item : Item} (up : le s t)
    (down : le t s) (inert : le (step s item).1 s) : le (step t item).1 t :=
  grows.trans (grows.same down up item) (grows.trans inert up)

/-- The handling leaves the state alone exactly when no item up to the first rejected one has
anything to do. -/
theorem Grows.unchanged_iff (grows : Grows le step) (s : State) (items : List Item) :
    le (Fallible.run step s items).1 s ↔
      ∀ item ∈ accepted step s items, le (step s item).1 s := by
  induction items generalizing s with
  | nil => simp [accepted, grows.refl s]
  | cons item items hypothesis =>
      by_cases taken : (step s item).2 = true
      · have up : le s (step s item).1 := grows.grow s item
        have front : accepted step s (item :: items) = item :: accepted step s items := by
          simp [accepted, taken]
        rw [run_accepted taken, front, List.forall_mem_cons]
        constructor
        · intro unchanged
          -- the first item's change would still be there at the end
          have down : le (step s item).1 s := grows.trans (grows.run _ items) unchanged
          refine ⟨down, ?_⟩
          rw [grows.accepted_eq up down]
          intro other member
          refine grows.inert_of_same down up ?_
          exact (hypothesis (step s item).1).mp (grows.trans unchanged up) other member
        · rintro ⟨down, rest⟩
          refine grows.trans ((hypothesis (step s item).1).mpr fun other member => ?_) down
          rw [← grows.accepted_eq up down] at member
          exact grows.inert_of_same up down (rest other member)
      · have rejected : (step s item).2 = false := by simpa using taken
        simp [run_rejected rejected, accepted, rejected, grows.reject rejected]

end Growth

end Fallible
