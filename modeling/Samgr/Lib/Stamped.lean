import Mathlib.Order.Lattice

/-! Answers kept under a stamp. Whoever asks a source reads a stamp first and keeps the answer
with it, and uses the answer again as long as its stamp is the current one. The source owes a
new stamp once its answer has changed. -/
namespace Stamped

structure Record (Value Stamp : Type*) where
  value : Value
  stamp : Stamp

variable {Value Stamp : Type*} [LinearOrder Stamp]
variable {answer now : Option Value} {live lives : Value → Prop} {stamp later : Stamp}
variable {owed owes : Prop} {records others : List (Record Value Stamp)}

/-- No record is newer than the stamp, and a live record under the stamp is the answer unless
a new stamp is owed. -/
structure Coherent (answer : Option Value) (live : Value → Prop) (stamp : Stamp) (owed : Prop)
    (records : List (Record Value Stamp)) : Prop where
  bounded : ∀ r ∈ records, r.stamp ≤ stamp
  fresh : ∀ r ∈ records, r.stamp = stamp → live r.value → answer = some r.value ∨ owed

/-- The live records from the start on are among the answers seen. -/
def Covers (start : Stamp) (seen : Option Value → Prop) (live : Value → Prop)
    (records : List (Record Value Stamp)) : Prop :=
  ∀ r ∈ records, start ≤ r.stamp → live r.value → seen (some r.value)

/-- No live record stands under the stamp. -/
def Unheld (live : Value → Prop) (stamp : Stamp) (records : List (Record Value Stamp)) : Prop :=
  ∀ r ∈ records, r.stamp = stamp → ¬ live r.value

namespace Coherent

/-- Records move, are dropped, or are added where they do no harm. -/
theorem join (good : Coherent answer live stamp owed records)
    (each : ∀ r ∈ others, r ∈ records ∨
      r.stamp ≤ stamp ∧ (r.stamp = stamp → lives r.value → answer = some r.value ∨ owes))
    (dying : ∀ value, lives value → live value) (kept : owed → owes) :
    Coherent answer lives stamp owes others := by
  constructor
  · intro r member
    rcases each r member with old | new
    · exact good.bounded r old
    · exact new.1
  · intro r member current alive
    rcases each r member with old | new
    · exact (good.fresh r old current (dying _ alive)).imp_right kept
    · exact new.2 current alive

theorem fewer (good : Coherent answer live stamp owed records) (inside : others ⊆ records)
    (kept : owed → owes) : Coherent answer live stamp owes others :=
  good.join (fun _ member => Or.inl (inside member)) (fun _ => id) kept

/-- The answer may change when nobody holds it. -/
theorem turn (good : Coherent answer live stamp owed records) (unheld : Unheld live stamp records) :
    Coherent now live stamp owes records :=
  ⟨good.bounded, fun r member current alive => absurd alive (unheld r member current)⟩

/-- Nobody holds an answer that is not there, or that is dead. -/
theorem lapse (good : Coherent answer live stamp owed records)
    (gone : ∀ value, answer = some value → ¬ live value) : Coherent now live stamp owed records := by
  constructor
  · exact good.bounded
  · intro r member current alive
    rcases good.fresh r member current alive with answered | owing
    · exact absurd alive (gone r.value answered)
    · exact Or.inr owing

/-- The answer may change when a new stamp is owed for it. -/
theorem owe (good : Coherent answer live stamp owed records) (owing : owes) :
    Coherent now live stamp owes records :=
  ⟨good.bounded, fun _ _ _ _ => Or.inr owing⟩

/-- A later stamp leaves no record under it. -/
theorem renew (good : Coherent answer live stamp owed records) (passed : stamp < later) :
    Coherent now live later owes records := by
  constructor
  · intro r member
    exact (good.bounded r member).trans passed.le
  · intro r member current
    exact absurd current (lt_of_le_of_lt (good.bounded r member) passed).ne

/-- When no stamp is owed, the live records from now on are answers. -/
theorem covers (good : Coherent answer live stamp owed records) (settled : ¬ owed)
    {seen : Option Value → Prop} (shown : seen answer) : Covers stamp seen live records := by
  intro r member since alive
  have current : r.stamp = stamp := le_antisymm (good.bounded r member) since
  have answered : answer = some r.value := (good.fresh r member current alive).resolve_right settled
  rwa [← answered]

end Coherent

namespace Covers

variable {start : Stamp} {seen : Option Value → Prop}

theorem move (good : Covers start seen live records)
    (each : ∀ r ∈ others, r ∈ records ∨ (lives r.value → seen (some r.value)))
    (dying : ∀ value, lives value → live value) : Covers start seen lives others := by
  intro r member since alive
  rcases each r member with old | new
  · exact good r old since (dying _ alive)
  · exact new alive

end Covers

end Stamped
