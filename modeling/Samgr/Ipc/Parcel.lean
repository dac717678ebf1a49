import Samgr.Facade.EventParcel
import Samgr.Facade.ExtraData

/-! The parcels between a client and the manager: what they hold, and the readers that each find the
value at the front if it is of their kind. -/
namespace Samgr.Ipc

/-- What a parcel between a client and the manager holds. -/
inductive IpcValue where
  | basic (value : ParcelValue)
  | interfaceToken (descriptor : String)
  | int64 (value : Int64)
  | string16 (value : String)
  | remoteObject (object : Nat)
  | int32Vector (values : List Int32)
  | int64Vector (values : List Int64)
  | string16Vector (values : List String)
  | extraData (data : OnDemandReasonExtraData)
  deriving DecidableEq, Repr

abbrev IpcParcel : Type := List IpcValue

abbrev IpcReader (Item : Type) : Type := Fifo.Reader IpcValue Item

/-- Every value takes up some bytes of its parcel. -/
abbrev IpcSizes : Type := Fifo.Sizes IpcValue

namespace IpcValue

def int32 (value : Int32) : IpcValue := .basic (.int32 value)

def bool (value : Bool) : IpcValue := .basic (.bool value)

def string (value : String) : IpcValue := .basic (.string value)

def toInt32 : IpcValue → Option Int32
  | .basic (.int32 value) => some value
  | _ => none

def toBool : IpcValue → Option Bool
  | .basic (.bool value) => some value
  | _ => none

def toString : IpcValue → Option String
  | .basic (.string value) => some value
  | _ => none

def toInterfaceToken : IpcValue → Option String
  | .interfaceToken descriptor => some descriptor
  | _ => none

def toInt64 : IpcValue → Option Int64
  | .int64 value => some value
  | _ => none

def toString16 : IpcValue → Option String
  | .string16 value => some value
  | _ => none

def toRemoteObject : IpcValue → Option Nat
  | .remoteObject object => some object
  | _ => none

def toInt32Vector : IpcValue → Option (List Int32)
  | .int32Vector values => some values
  | _ => none

def toInt64Vector : IpcValue → Option (List Int64)
  | .int64Vector values => some values
  | _ => none

def toString16Vector : IpcValue → Option (List String)
  | .string16Vector values => some values
  | _ => none

def toExtraData : IpcValue → Option OnDemandReasonExtraData
  | .extraData data => some data
  | _ => none

end IpcValue

/-- The value at the front, if it is of the kind; a value of another kind stays where it is. -/
def readAs {Item : Type} (kind : IpcValue → Option Item) : IpcReader Item
  | [] => (none, [])
  | value :: rest =>
      match kind value with
      | none => (none, value :: rest)
      | some item => (some item, rest)

theorem takes_readAs {Item : Type} {kind : IpcValue → Option Item} {value : IpcValue} {item : Item}
    (same : kind value = some item) : (readAs kind).Takes [value] item := by
  intro rest
  rw [List.singleton_append, readAs, same]

def readInt32 : IpcReader Int32 := readAs IpcValue.toInt32

def readBool : IpcReader Bool := readAs IpcValue.toBool

def readString : IpcReader String := readAs IpcValue.toString

def readInterfaceToken : IpcReader String := readAs IpcValue.toInterfaceToken

def readInt64 : IpcReader Int64 := readAs IpcValue.toInt64

def readString16 : IpcReader String := readAs IpcValue.toString16

def readRemoteObject : IpcReader Nat := readAs IpcValue.toRemoteObject

def readInt32Vector : IpcReader (List Int32) := readAs IpcValue.toInt32Vector

def readInt64Vector : IpcReader (List Int64) := readAs IpcValue.toInt64Vector

def readString16Vector : IpcReader (List String) := readAs IpcValue.toString16Vector

def readExtraData : IpcReader OnDemandReasonExtraData := readAs IpcValue.toExtraData

theorem takes_int32 (value : Int32) : readInt32.Takes [.int32 value] value := takes_readAs rfl

theorem takes_bool (value : Bool) : readBool.Takes [.bool value] value := takes_readAs rfl

theorem takes_string (value : String) : readString.Takes [.string value] value := takes_readAs rfl

theorem takes_interfaceToken (descriptor : String) :
    readInterfaceToken.Takes [.interfaceToken descriptor] descriptor := takes_readAs rfl

theorem takes_int64 (value : Int64) : readInt64.Takes [.int64 value] value := takes_readAs rfl

theorem takes_string16 (value : String) : readString16.Takes [.string16 value] value := takes_readAs rfl

theorem takes_remoteObject (object : Nat) : readRemoteObject.Takes [.remoteObject object] object :=
  takes_readAs rfl

theorem takes_int32Vector (values : List Int32) : readInt32Vector.Takes [.int32Vector values] values :=
  takes_readAs rfl

theorem takes_string16Vector (values : List String) :
    readString16Vector.Takes [.string16Vector values] values := takes_readAs rfl

section Counted

variable {Item : Type} (refused : Int32 → IpcParcel → Bool) (read : IpcReader Item)

/-- Items behind their number, unless the number is refused. -/
def readCounted : IpcReader (List Item) := fun reply =>
  match readInt32 reply with
  | (none, rest) => (none, rest)
  | (some size, rest) =>
      if refused size rest then (none, rest)
      else
        match read.each size.toInt.toNat [] rest with
        | ((true, items), left) => (some items, left)
        | ((false, _), left) => (none, left)

def writeCounted (write : Item → IpcParcel) (items : List Item) : IpcParcel :=
  [.int32 (Int32.ofNat items.length)] ++ items.flatMap write

variable {refused read} {write : Item → IpcParcel} {items : List Item}

theorem takes_readCounted (few : items.length < 2 ^ 31)
    (takes : ∀ item ∈ items, read.Takes (write item) item)
    (accepted : ∀ rest, refused (Int32.ofNat items.length) (items.flatMap write ++ rest) = false) :
    (readCounted refused read).Takes (writeCounted write items) items := by
  intro rest
  have count : (Int32.ofNat items.length).toInt = items.length := OnDemandEventToParcel.toInt_ofNat few
  have number := takes_int32 (Int32.ofNat items.length) (items.flatMap write ++ rest)
  rw [readCounted, writeCounted, List.append_assoc, number]
  simp only [accepted rest, Bool.false_eq_true, if_false, count, Int.toNat_natCast,
    Fifo.Reader.each_written takes [] rest, List.nil_append]

end Counted

section Sized

variable (sizes : IpcSizes)

/-- What a number of items is compared with: the bytes that can still be read. -/
def invalidSize (size : Int32) (reply : IpcParcel) : Bool :=
  OnDemandEventToParcel.sizeT size > sizes.readable reply || size.toInt < 0

/-- A number that was written with its items is never too large. -/
theorem invalidSize_written {Item : Type} {write : Item → IpcParcel} {items : List Item}
    (few : items.length < 2 ^ 31) (some : ∀ item ∈ items, write item ≠ []) (rest : IpcParcel) :
    invalidSize sizes (Int32.ofNat items.length) (items.flatMap write ++ rest) = false := by
  have count := OnDemandEventToParcel.toInt_ofNat few
  have own := sizes.length_le_readable_flatMap some
  simp only [invalidSize, OnDemandEventToParcel.sizeT, count, sizes.readable_append,
    Bool.or_eq_false_iff, decide_eq_false_iff_not]
  omega

/-- The values at the front that an event is made of, and the rest. -/
def basics : IpcParcel → MessageParcel × IpcParcel
  | .basic value :: rest => (value :: (basics rest).1, (basics rest).2)
  | rest => ([], rest)

theorem basics_append (front : MessageParcel) (rest : IpcParcel) :
    basics (front.map .basic ++ rest) = (front ++ (basics rest).1, (basics rest).2) := by
  induction front with
  | nil => rfl
  | cons value front hypothesis =>
      rw [List.map_cons, List.cons_append, basics, hypothesis]
      rfl

theorem basics_join (data : IpcParcel) : (basics data).1.map .basic ++ (basics data).2 = data := by
  induction data with
  | nil => rfl
  | cons value data hypothesis =>
      cases value with
      | basic value =>
          rw [basics, List.map_cons, List.cons_append, hypothesis]
      | _ => rfl

def basicSizes : ParcelSizes where
  bytes value := sizes.bytes (.basic value)
  pos value := sizes.pos (.basic value)

def writeEvents (events : List SystemAbilityOnDemandEvent) : IpcParcel :=
  (OnDemandEventToParcel.writeOnDemandEventsToParcel events []).map .basic

/-- Another value than those of an event ends the events: a list that says it goes on behind it is
refused at its number here, and where it comes to that value in the source. -/
def readEvents : IpcReader (List SystemAbilityOnDemandEvent) := fun data =>
  match OnDemandEventToParcel.readOnDemandEventsFromParcel (basicSizes sizes) [] (basics data).1 with
  | ((true, events), left) => (some events, left.map .basic ++ (basics data).2)
  | ((false, _), left) => (none, left.map .basic ++ (basics data).2)

theorem takes_readEvents {events : List SystemAbilityOnDemandEvent} (few : events.length < 2 ^ 31)
    (fits : ∀ event ∈ events, OnDemandEventToParcel.Fits event) :
    (readEvents sizes).Takes (writeEvents events) events := by
  intro rest
  have read := @OnDemandEventToParcel.readSized_written (basicSizes sizes) _
    (OnDemandEventToParcel.readEntry (basicSizes sizes)) OnDemandEventToParcel.writeEntry _ few
    (fun _ _ => List.cons_ne_nil _ _)
    (fun event member => OnDemandEventToParcel.takes_entry (fits event member)) [] (basics rest).1
  rw [readEvents, writeEvents, basics_append, OnDemandEventToParcel.writeOnDemandEventsToParcel,
    List.nil_append, OnDemandEventToParcel.readOnDemandEventsFromParcel, read]
  simp only [List.nil_append, basics_join]

end Sized

end Samgr.Ipc
