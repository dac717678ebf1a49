import Samgr.Collect.PolicyRoundTrip
import Samgr.Lib.Fifo

/-! The events of a policy on their way between the manager and a process. Writer and reader go through
an event field by field, and the reader asks of every length whether that much can still be there. -/
namespace Samgr

/-- What a `MessageParcel` holds. -/
inductive ParcelValue where
  | int32 (value : Int32)
  | bool (value : Bool)
  | string (value : String)
  deriving DecidableEq, Repr

abbrev MessageParcel : Type := List ParcelValue

/-- Every value of the parcel has a size, and none is empty. -/
abbrev ParcelSizes : Type := Fifo.Sizes ParcelValue

namespace MessageParcel

def readInt32 : Fifo.Reader ParcelValue Int32
  | .int32 value :: rest => (some value, rest)
  | values => (none, values)

def readBool : Fifo.Reader ParcelValue Bool
  | .bool value :: rest => (some value, rest)
  | values => (none, values)

def readString : Fifo.Reader ParcelValue String
  | .string value :: rest => (some value, rest)
  | values => (none, values)

theorem takes_readInt32 (value : Int32) : readInt32.Takes [.int32 value] value := fun _ => rfl

theorem takes_readBool (value : Bool) : readBool.Takes [.bool value] value := fun _ => rfl

theorem takes_readString (value : String) : readString.Takes [.string value] value := fun _ => rfl

end MessageParcel

namespace OnDemandEventToParcel

open MessageParcel

/-- A size as it is compared with the readable bytes. -/
def sizeT (size : Int32) : Nat := (size.toInt % 2 ^ 64).toNat

/-- The parcel takes whatever is written, so no write fails. -/
def writeOnDemandEventToParcel (event : SystemAbilityOnDemandEvent) : MessageParcel :=
  [.int32 (Int32.ofInt event.eventId), .string event.name, .string event.value]

def writeOnDemandConditionToParcel (condition : SystemAbilityOnDemandCondition) : MessageParcel :=
  [.int32 (Int32.ofInt condition.eventId), .string condition.name, .string condition.value]

/-- The conditions of an event behind their number. -/
def writeConditions (conditions : List SystemAbilityOnDemandCondition) : MessageParcel :=
  [.int32 (Int32.ofNat conditions.length)] ++ conditions.flatMap writeOnDemandConditionToParcel

/-- One pass of the loop of `WriteOnDemandEventsToParcel`. -/
def writeEntry (event : SystemAbilityOnDemandEvent) : MessageParcel :=
  writeOnDemandEventToParcel event ++
    ([.bool event.persistence] ++ (writeConditions event.conditions ++ [.bool event.enableOnce]))

def writeOnDemandEventsToParcel (abilityOnDemandEvents : List SystemAbilityOnDemandEvent)
    (data : MessageParcel) : MessageParcel :=
  data ++ ([.int32 (Int32.ofNat abilityOnDemandEvents.length)] ++ abilityOnDemandEvents.flatMap writeEntry)

def readOnDemandEventFromParcel : Fifo.Reader ParcelValue SystemAbilityOnDemandEvent :=
  MessageParcel.readInt32.andThen fun eventId => readString.andThen fun name =>
    readString.andThen fun value => Fifo.Reader.done { eventId := eventId.toInt, name, value }

def readOnDemandConditionFromParcel : Fifo.Reader ParcelValue SystemAbilityOnDemandCondition :=
  MessageParcel.readInt32.andThen fun eventId => readString.andThen fun name =>
    readString.andThen fun value => Fifo.Reader.done { eventId := eventId.toInt, name, value }

variable (sizes : ParcelSizes)

/-- A number of entries that is negative, or larger than the bytes behind it, is invalid. -/
def invalidSize (size : Int32) (reply : MessageParcel) : Bool :=
  sizeT size > sizes.readable reply || size.toInt < 0

/-- Entries behind their number, appended to what is there already. -/
def readSized {Entry : Type} (read : Fifo.Reader ParcelValue Entry) (out : List Entry)
    (reply : MessageParcel) : (Bool × List Entry) × MessageParcel :=
  match MessageParcel.readInt32 reply with
  | (none, rest) => ((false, out), rest)
  | (some size, rest) =>
      if invalidSize sizes size rest then ((false, out), rest)
      else read.each size.toInt.toNat out rest

def readConditions : Fifo.Reader ParcelValue (List SystemAbilityOnDemandCondition) := fun reply =>
  match readSized sizes readOnDemandConditionFromParcel [] reply with
  | ((true, conditions), rest) => (some conditions, rest)
  | ((false, _), rest) => (none, rest)

/-- One pass of the loop of `ReadOnDemandEventsFromParcel`. -/
def readEntry : Fifo.Reader ParcelValue SystemAbilityOnDemandEvent :=
  readOnDemandEventFromParcel.andThen fun event => readBool.andThen fun persistence =>
    (readConditions sizes).andThen fun conditions => readBool.andThen fun enableOnce =>
      Fifo.Reader.done { event with persistence, conditions, enableOnce }

/-- Whether the reading succeeds, the events it has pushed even if it does not, and what is left. -/
def readOnDemandEventsFromParcel (abilityOnDemandEvents : List SystemAbilityOnDemandEvent)
    (reply : MessageParcel) : (Bool × List SystemAbilityOnDemandEvent) × MessageParcel :=
  readSized sizes (readEntry sizes) abilityOnDemandEvents reply

/-- What an `int32_t` can hold. -/
def isInt32 (value : Int) : Prop := -2 ^ 31 ≤ value ∧ value < 2 ^ 31

instance (value : Int) : Decidable (isInt32 value) := inferInstanceAs (Decidable (_ ∧ _))

/-- The ids of an enumeration are 32 bits wide; the conditions can be counted in as many. -/
structure Fits (event : SystemAbilityOnDemandEvent) : Prop where
  id : isInt32 event.eventId
  conditionIds : ∀ condition ∈ event.conditions, isInt32 condition.eventId
  few : event.conditions.length < 2 ^ 31

variable {sizes}

theorem toInt_ofInt {value : Int} (fits : isInt32 value) : (Int32.ofInt value).toInt = value :=
  Int32.toInt_ofInt_of_le fits.1 fits.2

theorem toInt_ofNat {count : Nat} (few : count < 2 ^ 31) : (Int32.ofNat count).toInt = count :=
  Int32.toInt_ofNat_of_lt few

theorem takes_event {event : SystemAbilityOnDemandEvent} (id : isInt32 event.eventId) :
    readOnDemandEventFromParcel.Takes (writeOnDemandEventToParcel event)
      { eventId := event.eventId, name := event.name, value := event.value } := by
  show Fifo.Reader.Takes _ ([ParcelValue.int32 (Int32.ofInt event.eventId)] ++
    ([ParcelValue.string event.name] ++ ([ParcelValue.string event.value] ++ []))) _
  refine (takes_readInt32 _).andThen ?_
  refine (takes_readString event.name).andThen ?_
  refine (takes_readString event.value).andThen ?_
  rw [toInt_ofInt id]
  exact Fifo.Reader.takes_done _

theorem takes_condition {condition : SystemAbilityOnDemandCondition} (id : isInt32 condition.eventId) :
    readOnDemandConditionFromParcel.Takes (writeOnDemandConditionToParcel condition) condition := by
  show Fifo.Reader.Takes _ ([ParcelValue.int32 (Int32.ofInt condition.eventId)] ++
    ([ParcelValue.string condition.name] ++ ([ParcelValue.string condition.value] ++ []))) _
  refine (takes_readInt32 _).andThen ?_
  refine (takes_readString condition.name).andThen ?_
  refine (takes_readString condition.value).andThen ?_
  rw [toInt_ofInt id]
  exact Fifo.Reader.takes_done _

/-- A number that was written with its entries is never refused. -/
theorem readSized_written {Entry : Type} {read : Fifo.Reader ParcelValue Entry}
    {write : Entry → MessageParcel} {entries : List Entry} (few : entries.length < 2 ^ 31)
    (some : ∀ entry ∈ entries, write entry ≠ []) (takes : ∀ entry ∈ entries, read.Takes (write entry) entry)
    (out : List Entry) (rest : MessageParcel) :
    readSized sizes read out ([.int32 (Int32.ofNat entries.length)] ++ entries.flatMap write ++ rest) =
      ((true, out ++ entries), rest) := by
  have count := toInt_ofNat few
  have fits : entries.length ≤ sizes.readable (entries.flatMap write ++ rest) := by
    have own := sizes.length_le_readable_flatMap some
    rw [sizes.readable_append]
    omega
  have accepted : invalidSize sizes (Int32.ofNat entries.length) (entries.flatMap write ++ rest) = false := by
    simp only [invalidSize, sizeT, count, Bool.or_eq_false_iff, decide_eq_false_iff_not]
    omega
  rw [List.append_assoc, readSized, List.singleton_append, MessageParcel.readInt32]
  simp only [accepted, Bool.false_eq_true, if_false, count, Int.toNat_natCast]
  exact Fifo.Reader.each_written takes out rest

theorem takes_conditions {event : SystemAbilityOnDemandEvent} (fits : Fits event) :
    (readConditions sizes).Takes (writeConditions event.conditions) event.conditions := by
  intro rest
  have read := @readSized_written sizes _ _ writeOnDemandConditionToParcel _ fits.few
    (fun _ _ => List.cons_ne_nil _ _)
    (fun condition member => takes_condition (fits.conditionIds condition member)) [] rest
  rw [readConditions, writeConditions, read]
  simp

theorem takes_entry {event : SystemAbilityOnDemandEvent} (fits : Fits event) :
    (readEntry sizes).Takes (writeEntry event) event := by
  rw [readEntry, writeEntry]
  refine (takes_event fits.id).andThen ?_
  refine (takes_readBool event.persistence).andThen ?_
  refine (takes_conditions fits).andThen ?_
  show Fifo.Reader.Takes _ ([ParcelValue.bool event.enableOnce] ++ []) _
  exact (takes_readBool event.enableOnce).andThen (Fifo.Reader.takes_done event)

/-- A parcel gives the reader at most as many entries as it has bytes. -/
theorem readSized_grows {Entry : Type} (read : Fifo.Reader ParcelValue Entry) (out : List Entry)
    (reply : MessageParcel) :
    ∃ new, (readSized sizes read out reply).1.2 = out ++ new ∧ new.length ≤ sizes.readable reply := by
  have nothing : ∃ new, out = out ++ new ∧ new.length ≤ sizes.readable reply :=
    ⟨[], (List.append_nil out).symm, Nat.zero_le _⟩
  rw [readSized]
  split
  · exact nothing
  · rename_i size rest found
    split
    · exact nothing
    · rename_i valid
      obtain ⟨new, grown, few⟩ := read.each_grows size.toInt.toNat out rest
      refine ⟨new, grown, Nat.le_trans few ?_⟩
      simp only [invalidSize, sizeT, Bool.or_eq_true, decide_eq_true_eq, not_or, gt_iff_lt, not_lt] at valid
      have taken : sizes.readable rest ≤ sizes.readable reply := by
        cases reply with
        | nil => cases found
        | cons value values =>
            cases value with
            | int32 number =>
                cases found
                exact Nat.le_add_left _ _
            | bool flag => cases found
            | string text => cases found
      have bound := size.toInt_lt
      omega

/-- Events that were written are read back, whatever follows them, and no parcel makes the reader push
more events than the parcel has bytes. -/
theorem on_demand_events_survive_parcel (sizes : ParcelSizes) (out : List SystemAbilityOnDemandEvent) :
    (∀ (events : List SystemAbilityOnDemandEvent) (rest : MessageParcel), events.length < 2 ^ 31 →
      (∀ event ∈ events, Fits event) →
        readOnDemandEventsFromParcel sizes out (writeOnDemandEventsToParcel events [] ++ rest) =
          ((true, out ++ events), rest)) ∧
      ∀ reply : MessageParcel, ∃ new, (readOnDemandEventsFromParcel sizes out reply).1.2 = out ++ new ∧
        new.length ≤ sizes.readable reply := by
  constructor
  · intro events rest few fits
    exact readSized_written few (fun _ _ => List.cons_ne_nil _ _)
      (fun event member => takes_entry (fits event member)) out rest
  · exact readSized_grows (readEntry sizes) out

def screenOnCharging : SystemAbilityOnDemandEvent :=
  { eventId := COMMON_EVENT
    name := "usual.event.SCREEN_ON"
    value := ""
    conditions := [⟨PARAM, "persist.charging", "true"⟩]
    enableOnce := true }

theorem screenOnCharging_survives :
    readOnDemandEventsFromParcel ⟨fun _ => 4, fun _ => by decide⟩ []
        (writeOnDemandEventsToParcel [screenOnCharging] [] ++ [.bool true]) =
      ((true, [screenOnCharging]), [.bool true]) := by
  refine (on_demand_events_survive_parcel _ []).1 [screenOnCharging] [.bool true] (by decide) ?_
  intro event member
  rw [List.mem_singleton.mp member]
  exact ⟨by decide, by decide, by decide⟩

end OnDemandEventToParcel

end Samgr
