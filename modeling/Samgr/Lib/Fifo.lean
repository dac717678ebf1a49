import Mathlib.Algebra.BigOperators.Group.List.Basic
import Mathlib.Algebra.Order.BigOperators.Group.List
import Mathlib.Algebra.GroupWithZero.Nat

/-! A queue of values, written at its end and read from its front. Every value takes up at least one
byte, so no more values can be read than the queue has bytes. -/
namespace Fifo

variable {Value Item Other : Type*}

/-- How many bytes each value takes up. -/
structure Sizes (Value : Type*) where
  bytes : Value → Nat
  pos : ∀ value, 0 < bytes value

namespace Sizes

variable (sizes : Sizes Value)

/-- The bytes that are left to be read. -/
def readable (values : List Value) : Nat := (values.map sizes.bytes).sum

@[simp] theorem readable_append (front back : List Value) :
    sizes.readable (front ++ back) = sizes.readable front + sizes.readable back := by
  simp [readable]

theorem length_le_readable (values : List Value) : values.length ≤ sizes.readable values := by
  induction values with
  | nil => exact Nat.zero_le _
  | cons value values hypothesis =>
      have positive := sizes.pos value
      have split : sizes.readable (value :: values) = sizes.bytes value + sizes.readable values := rfl
      rw [split, List.length_cons]
      omega

/-- A list of items can be no longer than what is written for them. -/
theorem length_le_readable_flatMap {write : Item → List Value} {items : List Item}
    (some : ∀ item ∈ items, write item ≠ []) : items.length ≤ sizes.readable (items.flatMap write) := by
  refine Nat.le_trans ?_ (sizes.length_le_readable _)
  induction items with
  | nil => exact Nat.zero_le _
  | cons item items hypothesis =>
      have first := List.length_pos_iff.mpr (some item List.mem_cons_self)
      have rest := hypothesis fun other member => some other (List.mem_cons_of_mem _ member)
      rw [List.flatMap_cons, List.length_append, List.length_cons]
      omega

end Sizes

/-- What reads an item from the front of a queue, or fails somewhere on the way. -/
abbrev Reader (Value Item : Type*) := List Value → Option Item × List Value

namespace Reader

/-- Nothing is read. -/
def done (item : Item) : Reader Value Item := fun values => (some item, values)

/-- One reader after the other. -/
def andThen (read : Reader Value Item) (next : Item → Reader Value Other) : Reader Value Other :=
  fun values =>
    match read values with
    | (none, rest) => (none, rest)
    | (some item, rest) => next item rest

/-- The reader finds the item in these values and takes no more than them. -/
def Takes (read : Reader Value Item) (values : List Value) (item : Item) : Prop :=
  ∀ rest, read (values ++ rest) = (some item, rest)

theorem takes_done (item : Item) : Takes (done item : Reader Value Item) [] item := fun _ => rfl

theorem Takes.andThen {read : Reader Value Item} {next : Item → Reader Value Other} {item : Item}
    {other : Other} {front back : List Value} (first : read.Takes front item)
    (second : (next item).Takes back other) : (read.andThen next).Takes (front ++ back) other := by
  intro rest
  rw [Reader.andThen, List.append_assoc, first]
  exact second rest

/-- A number of items, each appended to what has been read; the reading ends with the first failure
and keeps what it has. -/
def each (read : Reader Value Item) : (count : Nat) → List Item → List Value →
    (Bool × List Item) × List Value
  | 0, out, values => ((true, out), values)
  | count + 1, out, values =>
      match read values with
      | (none, rest) => ((false, out), rest)
      | (some item, rest) => each read count (out ++ [item]) rest

/-- The items that were written are read, one after the other. -/
theorem each_written {read : Reader Value Item} {write : Item → List Value} {items : List Item}
    (takes : ∀ item ∈ items, read.Takes (write item) item) (out : List Item) (rest : List Value) :
    each read items.length out (items.flatMap write ++ rest) = ((true, out ++ items), rest) := by
  induction items generalizing out with
  | nil => simp [each]
  | cons item items hypothesis =>
      have first := takes item List.mem_cons_self (items.flatMap write ++ rest)
      have later := hypothesis fun other member => takes other (List.mem_cons_of_mem _ member)
      rw [List.flatMap_cons, List.append_assoc, List.length_cons, each, first]
      simp only
      rw [later, List.append_assoc, List.singleton_append]

/-- What comes out is what was there before and at most as many items as were asked for. -/
theorem each_grows (read : Reader Value Item) (count : Nat) (out : List Item) (values : List Value) :
    ∃ new, (each read count out values).1.2 = out ++ new ∧ new.length ≤ count := by
  induction count generalizing out values with
  | zero => exact ⟨[], (List.append_nil out).symm, Nat.le_refl _⟩
  | succ count hypothesis =>
      rw [each]
      split
      · exact ⟨[], (List.append_nil out).symm, Nat.zero_le _⟩
      · rename_i item rest _
        obtain ⟨new, grown, few⟩ := hypothesis (out ++ [item]) rest
        refine ⟨item :: new, ?_, Nat.succ_le_succ few⟩
        rw [grown, List.append_assoc, List.singleton_append]

end Reader

end Fifo
