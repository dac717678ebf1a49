import Samgr.Facade.DeviceOnline
import Samgr.Lib.Threads

/-! The reports of the devices that are online. A callback decides what it will report while it holds the
lock of the set, and reports it when it has given the lock back; the resynchronisation reads, clears and
refills the set in sections of their own. -/
namespace Samgr

/-- The set of the devices that are online, and the values that have been reported, the latest first. -/
structure DeviceNetwork where
  deviceOnlineSet : List String := []
  reported : List String := []

inductive DeviceCall where
  | onDeviceOnline (networkId : String)
  | onDeviceOffline (networkId : String)
  /-- With the trusted devices, if they can be asked for. -/
  | reportMissedEvents (devList : Option (List String))

inductive DevicePiece where
  | emplace (networkId : String)
  | erase (networkId : String)
  | isOnline (devList : List String)
  | clearDeviceOnlineSet (devList : List String)
  | updateDeviceOnlineSet (networkId : String)
  | reportEvent (value : String)
  deriving DecidableEq, Repr

namespace DeviceNetwork

variable (n : DeviceNetwork)

/-- The collector that holds the set. -/
def collector : DeviceNetworkingCollect := { stateCallback := some n.deviceOnlineSet }

def enter : DeviceCall → List DevicePiece
  | .onDeviceOnline networkId => [.emplace networkId]
  | .onDeviceOffline networkId => [.erase networkId]
  | .reportMissedEvents none => []
  | .reportMissedEvents (some devList) => [.isOnline devList]

def exec : DevicePiece → DeviceNetwork × List DevicePiece
  | .emplace networkId =>
      ({ n with deviceOnlineSet := n.deviceOnlineSet.insert networkId }, [.reportEvent "on"])
  | .erase networkId =>
      let left := { n with deviceOnlineSet := n.deviceOnlineSet.filter (· != networkId) }
      (left, if left.collector.isOnline then [] else [.reportEvent "off"])
  | .isOnline devList =>
      (n, if n.collector.isOnline then [.clearDeviceOnlineSet devList]
        else if devList.isEmpty then []
        else devList.map .updateDeviceOnlineSet ++ [.reportEvent "on"])
  | .clearDeviceOnlineSet devList =>
      ({ n with deviceOnlineSet := [] },
        if devList.isEmpty then [.reportEvent "off"] else devList.map .updateDeviceOnlineSet)
  | .updateDeviceOnlineSet networkId =>
      ({ n with deviceOnlineSet := n.deviceOnlineSet.insert networkId }, [])
  | .reportEvent value => ({ n with reported := value :: n.reported }, [])

end DeviceNetwork

/-- `deviceOnlineLock_` is held within a section only. -/
def deviceProgram : Threads.Program DeviceNetwork DeviceCall DevicePiece Unit Empty Unit where
  enter _ := DeviceNetwork.enter
  exec _ := DeviceNetwork.exec
  take _ := none
  act _ action := nomatch action
  needs _ _ := none
  releases _ := none

abbrev DeviceMachine : Type := Threads.Config DeviceNetwork DevicePiece

abbrev DeviceLabel : Type := Threads.Label DeviceCall Unit Empty

/-- Whether the call that still has this piece to run will leave a device online, once it has decided. -/
def DevicePiece.settlesOn : DevicePiece → Option Bool
  | .emplace _ | .erase _ | .isOnline _ => none
  | .clearDeviceOnlineSet devList => some !devList.isEmpty
  | .updateDeviceOnlineSet _ => some true
  | .reportEvent value => some (value == "on")

/-- What the first section of a call decides. -/
def DeviceNetwork.decides (n : DeviceNetwork) : DevicePiece → Option Bool
  | .emplace _ => some true
  | .erase networkId => if n.deviceOnlineSet.filter (· != networkId) = [] then some false else none
  | .isOnline devList =>
      if !devList.isEmpty then some true else if n.collector.isOnline then some false else none
  | _ => none

/-- The piece puts a device into the set, or a later one of its call does. -/
def DevicePiece.fills : DevicePiece → Bool
  | .clearDeviceOnlineSet devList => !devList.isEmpty
  | .updateDeviceOnlineSet _ => true
  | _ => false

namespace DeviceNetwork

/-- The calls that have decided agree that devices are online, and some piece sees to whatever does not
show it yet. -/
structure LeavesOn (n : DeviceNetwork) (pieces : List DevicePiece) : Prop where
  agreed : ∀ piece ∈ pieces, piece.settlesOn ≠ some false
  filled : n.deviceOnlineSet ≠ [] ∨ ∃ piece ∈ pieces, piece.fills = true
  told : n.reported.head? = some "on" ∨ .reportEvent "on" ∈ pieces

/-- The same when no device is to be online. -/
structure LeavesOff (n : DeviceNetwork) (pieces : List DevicePiece) : Prop where
  agreed : ∀ piece ∈ pieces, piece.settlesOn ≠ some true
  emptied : n.deviceOnlineSet = [] ∨ .clearDeviceOnlineSet [] ∈ pieces
  told : n.reported.head? ≠ some "on" ∨ .reportEvent "off" ∈ pieces ∨ .clearDeviceOnlineSet [] ∈ pieces

def Leaves (n : DeviceNetwork) (pieces : List DevicePiece) : Prop := n.LeavesOn pieces ∨ n.LeavesOff pieces

variable {n : DeviceNetwork} {piece : DevicePiece} {pieces others : List DevicePiece}

theorem isOnline_collector : n.collector.isOnline = !n.deviceOnlineSet.isEmpty := rfl

theorem Leaves.perm (same : pieces.Perm others) (good : n.Leaves pieces) : n.Leaves others := by
  rcases good with good | good
  · refine .inl ⟨fun piece member => good.agreed piece (same.mem_iff.mpr member), ?_, ?_⟩
    · refine good.filled.imp_right ?_
      rintro ⟨piece, member, fills⟩
      exact ⟨piece, same.mem_iff.mp member, fills⟩
    · exact good.told.imp_right same.mem_iff.mp
  · refine .inr ⟨fun piece member => good.agreed piece (same.mem_iff.mpr member), ?_, ?_⟩
    · exact good.emptied.imp_right same.mem_iff.mp
    · exact good.told.imp_right (Or.imp same.mem_iff.mp same.mem_iff.mp)

/-- A call that has not decided says nothing. -/
theorem Leaves.call (good : n.Leaves pieces) (call : DeviceCall) : n.Leaves (enter call ++ pieces) := by
  have silent : ∀ piece ∈ enter call, piece.settlesOn = none := by
    intro piece member
    cases call with
    | onDeviceOnline networkId => rw [List.mem_singleton.mp member]; rfl
    | onDeviceOffline networkId => rw [List.mem_singleton.mp member]; rfl
    | reportMissedEvents devList =>
        cases devList with
        | none => cases member
        | some devList => rw [List.mem_singleton.mp member]; rfl
  have keep : ∀ {piece}, piece ∈ pieces → piece ∈ enter call ++ pieces := fun {piece} inside =>
    List.mem_append_right _ inside
  rcases good with good | good
  · refine .inl ⟨fun piece member => ?_, ?_, good.told.imp_right keep⟩
    · rcases List.mem_append.mp member with new | old
      · simp [silent piece new]
      · exact good.agreed piece old
    · refine good.filled.imp_right ?_
      rintro ⟨piece, member, fills⟩
      exact ⟨piece, keep member, fills⟩
  · refine .inr ⟨fun piece member => ?_, good.emptied.imp_right keep,
      good.told.imp_right (Or.imp keep keep)⟩
    rcases List.mem_append.mp member with new | old
    · simp [silent piece new]
    · exact good.agreed piece old

/-- A first section that decides nothing and leaves the set as empty or not as it was. -/
theorem Leaves.drop {m : DeviceNetwork} (good : n.Leaves (piece :: others)) (silent : piece.settlesOn = none)
    (content : m.deviceOnlineSet = [] ↔ n.deviceOnlineSet = []) (reported : m.reported = n.reported) :
    m.Leaves others := by
  have other : ∀ {later : DevicePiece}, later.settlesOn ≠ none → later ∈ piece :: others → later ∈ others := by
    intro later spoken member
    rcases List.mem_cons.mp member with rfl | member
    · exact absurd silent spoken
    · exact member
  rcases good with good | good
  · refine .inl ⟨fun later member => good.agreed later (List.mem_cons_of_mem _ member), ?_, ?_⟩
    · rw [Ne, content]
      refine good.filled.imp_right ?_
      rintro ⟨later, member, fills⟩
      refine ⟨later, other ?_ member, fills⟩
      intro none
      cases later <;> simp [DevicePiece.settlesOn, DevicePiece.fills] at none fills
    · rw [reported]
      exact good.told.imp_right (other (by simp [DevicePiece.settlesOn]))
  · refine .inr ⟨fun later member => good.agreed later (List.mem_cons_of_mem _ member), ?_, ?_⟩
    · rw [content]
      exact good.emptied.imp_right (other (by simp [DevicePiece.settlesOn]))
    · rw [reported]
      exact good.told.imp_right (Or.imp (other (by simp [DevicePiece.settlesOn]))
        (other (by simp [DevicePiece.settlesOn])))

variable {m : DeviceNetwork} {made : List DevicePiece}

/-- What a piece that leaves devices online makes of the others. -/
theorem LeavesOn.of (others_agree : ∀ piece ∈ others, piece.settlesOn ≠ some false)
    (made_agree : ∀ piece ∈ made, piece.settlesOn ≠ some false)
    (filled : m.deviceOnlineSet ≠ [] ∨ ∃ piece ∈ made, piece.fills = true)
    (told : .reportEvent "on" ∈ made ∨ m.reported.head? = some "on" ∨ .reportEvent "on" ∈ others) :
    m.LeavesOn (made ++ others) := by
  constructor
  · intro piece member
    rcases List.mem_append.mp member with new | old
    · exact made_agree piece new
    · exact others_agree piece old
  · refine filled.imp_right ?_
    rintro ⟨piece, member, fills⟩
    exact ⟨piece, List.mem_append_left _ member, fills⟩
  · rcases told with new | done | old
    · exact .inr (List.mem_append_left _ new)
    · exact .inl done
    · exact .inr (List.mem_append_right _ old)

theorem LeavesOff.of (others_agree : ∀ piece ∈ others, piece.settlesOn ≠ some true)
    (made_agree : ∀ piece ∈ made, piece.settlesOn ≠ some true)
    (emptied : m.deviceOnlineSet = [] ∨ .clearDeviceOnlineSet [] ∈ made)
    (told : .reportEvent "off" ∈ made ∨ .clearDeviceOnlineSet [] ∈ made) :
    m.LeavesOff (made ++ others) := by
  constructor
  · intro piece member
    rcases List.mem_append.mp member with new | old
    · exact made_agree piece new
    · exact others_agree piece old
  · exact emptied.imp_right (List.mem_append_left _)
  · exact .inr (told.imp (List.mem_append_left _) (List.mem_append_left _))

/-- A call that has decided for devices being online is in agreement with all that have decided. -/
theorem Leaves.on (good : n.Leaves (piece :: others)) (settles : piece.settlesOn = some true) :
    n.LeavesOn (piece :: others) := by
  rcases good with good | good
  · exact good
  · exact absurd settles (good.agreed piece List.mem_cons_self)

theorem Leaves.off (good : n.Leaves (piece :: others)) (settles : piece.settlesOn = some false) :
    n.LeavesOff (piece :: others) := by
  rcases good with good | good
  · exact absurd settles (good.agreed piece List.mem_cons_self)
  · exact good

theorem LeavesOn.rest_agreed (good : n.LeavesOn (piece :: others)) :
    ∀ later ∈ others, later.settlesOn ≠ some false :=
  fun later member => good.agreed later (List.mem_cons_of_mem _ member)

theorem LeavesOff.rest_agreed (good : n.LeavesOff (piece :: others)) :
    ∀ later ∈ others, later.settlesOn ≠ some true :=
  fun later member => good.agreed later (List.mem_cons_of_mem _ member)

/-- What a call that decides finds of the others. -/
theorem rest_of_agrees {on : Bool} (agrees : ∀ other ∈ piece :: others, other.settlesOn ≠ some !on) :
    ∀ other ∈ others, other.settlesOn ≠ some !on :=
  fun other member => agrees other (List.mem_cons_of_mem _ member)

theorem updates_agree {devList : List String} :
    ∀ piece ∈ devList.map DevicePiece.updateDeviceOnlineSet, piece.settlesOn ≠ some false := by
  intro piece member
  obtain ⟨networkId, -, rfl⟩ := List.mem_map.mp member
  simp [DevicePiece.settlesOn]

theorem updates_fill {devList : List String} (some : devList.isEmpty = false) :
    ∃ piece ∈ devList.map DevicePiece.updateDeviceOnlineSet, piece.fills = true := by
  cases devList with
  | nil => cases some
  | cons networkId rest => exact ⟨_, List.mem_cons_self, rfl⟩

theorem insert_ne_nil {devices : List String} {networkId : String} : devices.insert networkId ≠ [] :=
  List.ne_nil_of_mem List.mem_insert_self

/-- A resynchronisation that finds devices online where there are trusted ones refills the set without a
report, so the report must have been made or be on its way. -/
theorem told_of_online (good : n.Leaves (piece :: others)) (silent : piece.settlesOn = none)
    (online : n.deviceOnlineSet ≠ []) (agreed : ∀ other ∈ others, other.settlesOn ≠ some false) :
    n.reported.head? = some "on" ∨ .reportEvent "on" ∈ others := by
  rcases good with good | good
  · refine good.told.imp_right fun member => ?_
    rcases List.mem_cons.mp member with same | member
    · rw [← same] at silent
      cases silent
    · exact member
  · have clears := good.emptied.resolve_left online
    rcases List.mem_cons.mp clears with same | member
    · rw [← same] at silent
      cases silent
    · exact absurd rfl (agreed _ member)

theorem erase_leaves {networkId : String} (good : n.Leaves (.erase networkId :: others))
    (agrees : ∀ on, n.decides (.erase networkId) = some on →
      ∀ other ∈ DevicePiece.erase networkId :: others, other.settlesOn ≠ some !on) :
    (n.exec (.erase networkId)).1.Leaves ((n.exec (.erase networkId)).2 ++ others) := by
  by_cases empty : n.deviceOnlineSet.filter (· != networkId) = []
  · have rest := rest_of_agrees (agrees false (by simp only [decides, empty, if_true]))
    simp only [exec, isOnline_collector, empty, List.isEmpty_nil, Bool.not_true, Bool.false_eq_true,
      if_false]
    exact .inr (.of rest (by simp [DevicePiece.settlesOn]) (.inl rfl) (.inl (List.mem_singleton_self _)))
  · have left : (n.deviceOnlineSet.filter (· != networkId)).isEmpty = false := by
      simpa using empty
    have others_left : n.deviceOnlineSet ≠ [] := by
      intro none
      rw [none] at empty
      exact empty rfl
    simp only [exec, isOnline_collector, left, Bool.not_false, if_true]
    exact good.drop rfl (iff_of_false empty others_left) rfl

/-- Without trusted devices the set is cleared if it has any, and otherwise nothing is to be done. -/
theorem isOnline_leaves_of_none (good : n.Leaves (.isOnline [] :: others))
    (agrees : ∀ on, n.decides (.isOnline []) = some on →
      ∀ other ∈ DevicePiece.isOnline [] :: others, other.settlesOn ≠ some !on) :
    (n.exec (.isOnline [])).1.Leaves ((n.exec (.isOnline [])).2 ++ others) := by
  cases online : n.collector.isOnline with
  | true =>
      have rest := rest_of_agrees (agrees false (by simp [decides, online]))
      simp only [exec, online, if_true]
      exact .inr (.of rest (by simp [DevicePiece.settlesOn]) (.inr (List.mem_singleton_self _))
        (.inr (List.mem_singleton_self _)))
  | false =>
      simp only [exec, online, Bool.false_eq_true, if_false, List.isEmpty_nil, if_true]
      exact good.drop rfl Iff.rfl rfl

/-- Trusted devices refill the set; a report is made only if it was empty. -/
theorem isOnline_leaves_of_some {devList : List String} (some : devList.isEmpty = false)
    (good : n.Leaves (.isOnline devList :: others))
    (agrees : ∀ other ∈ DevicePiece.isOnline devList :: others, other.settlesOn ≠ .some !true) :
    (n.exec (.isOnline devList)).1.Leaves ((n.exec (.isOnline devList)).2 ++ others) := by
  have rest := rest_of_agrees agrees
  cases online : n.collector.isOnline with
  | true =>
      have content : n.deviceOnlineSet ≠ [] := by
        simpa [isOnline_collector] using online
      have told := told_of_online good rfl content rest
      simp only [exec, online, if_true]
      exact .inl (.of rest (by simp [DevicePiece.settlesOn, some]) (.inl content) (.inr told))
  | false =>
      simp only [exec, online, some, Bool.false_eq_true, if_false]
      obtain ⟨filler, member, fills⟩ := updates_fill some
      apply Or.inl
      apply LeavesOn.of rest
      · intro piece inside
        rcases List.mem_append.mp inside with update | report
        · exact updates_agree piece update
        · rw [List.mem_singleton.mp report]
          simp [DevicePiece.settlesOn]
      · exact .inr ⟨filler, List.mem_append_left _ member, fills⟩
      · exact .inl (List.mem_append_right _ (List.mem_singleton_self _))

theorem clear_leaves {devList : List String} (good : n.Leaves (.clearDeviceOnlineSet devList :: others)) :
    (n.exec (.clearDeviceOnlineSet devList)).1.Leaves
      ((n.exec (.clearDeviceOnlineSet devList)).2 ++ others) := by
  cases none : devList.isEmpty with
  | true =>
      have off := good.off (by simp [DevicePiece.settlesOn, none])
      simp only [exec, none, if_true]
      exact .inr (.of off.rest_agreed (by simp [DevicePiece.settlesOn]) (.inl rfl)
        (.inl (List.mem_singleton_self _)))
  | false =>
      have on := good.on (by simp [DevicePiece.settlesOn, none])
      simp only [exec, none, Bool.false_eq_true, if_false]
      apply Or.inl
      apply LeavesOn.of on.rest_agreed updates_agree (.inr (updates_fill none))
      exact .inr (on.told.imp_right fun member => by simpa using member)

theorem reportEvent_leaves {value : String} (good : n.Leaves (.reportEvent value :: others)) :
    (n.exec (.reportEvent value)).1.Leaves ((n.exec (.reportEvent value)).2 ++ others) := by
  by_cases same : value = "on"
  · subst same
    have on := good.on (by simp [DevicePiece.settlesOn])
    refine .inl ⟨on.rest_agreed, ?_, .inl rfl⟩
    apply on.filled.imp_right
    rintro ⟨filler, member, fills⟩
    rcases List.mem_cons.mp member with rfl | member
    · cases fills
    · exact ⟨filler, member, fills⟩
  · have off := good.off (by simp [DevicePiece.settlesOn, same])
    refine .inr ⟨off.rest_agreed, ?_, .inl ?_⟩
    · exact off.emptied.imp_right fun member => by simpa [exec] using member
    · simp [exec, same]

/-- A piece that decides against no other leaves what the pieces still to come will make of the set and
of the report. -/
theorem exec_leaves (good : n.Leaves (piece :: others))
    (agrees : ∀ on, n.decides piece = some on →
      ∀ other ∈ piece :: others, other.settlesOn ≠ some !on) :
    (n.exec piece).1.Leaves ((n.exec piece).2 ++ others) := by
  cases piece with
  | emplace networkId =>
      have rest := rest_of_agrees (agrees true rfl)
      exact .inl (.of rest (by simp [exec, DevicePiece.settlesOn]) (.inl insert_ne_nil)
        (.inl (List.mem_singleton_self _)))
  | erase networkId => exact erase_leaves good agrees
  | isOnline devList =>
      cases none : devList.isEmpty with
      | true =>
          obtain rfl := List.isEmpty_iff.mp none
          exact isOnline_leaves_of_none good agrees
      | false => exact isOnline_leaves_of_some none good (agrees true (by simp [decides, none]))
  | clearDeviceOnlineSet devList => exact clear_leaves good
  | updateDeviceOnlineSet networkId =>
      have on := good.on rfl
      apply Or.inl
      apply LeavesOn.of on.rest_agreed (by simp [exec]) (.inl insert_ne_nil)
      exact .inr (on.told.imp_right fun member => by simpa using member)
  | reportEvent value => exact reportEvent_leaves good

end DeviceNetwork

namespace DeviceMachine

def step (x : DeviceMachine) (label : DeviceLabel) : DeviceMachine :=
  Threads.Config.step deviceProgram x label

/-- Before any call. -/
def init : DeviceMachine := { shared := {} }

/-- Nothing was reported and no device is online, or the last value is that of the set. -/
def Settled (n : DeviceNetwork) : Prop :=
  n.reported = [] ∧ n.deviceOnlineSet = [] ∨
    ∃ value, n.reported.head? = some value ∧ (value = "on" ↔ n.deviceOnlineSet ≠ [])

/-- A call does not decide against another one that has decided and has not returned. -/
def agrees (x : DeviceMachine) (label : DeviceLabel) : Bool :=
  (x.next deviceProgram label).all fun piece =>
    (x.shared.decides piece).all fun on =>
      x.inFlight.all fun other => decide (other.settlesOn ≠ some !on)

open Threads.Config

variable {x : DeviceMachine} {label : DeviceLabel}

theorem step_leaves (agreed : x.agrees label = true) (good : x.shared.Leaves x.inFlight) :
    (x.step label).shared.Leaves (x.step label).inFlight := by
  refine step_keeps (P := deviceProgram) DeviceNetwork.Leaves ?_ ?_ ?_ ?_ ?_ good
  · exact fun same leaves => leaves.perm same
  · exact fun call pieces leaves => leaves.call call
  · intro _ piece others next _ opened leaves
    refine DeviceNetwork.exec_leaves leaves fun on decided other member => ?_
    simp only [agrees, next, Option.all_some, decided, List.all_eq_true, decide_eq_true_eq] at agreed
    exact agreed other (opened.mem_iff.mpr member)
  · intro _ _ _ taken
    cases taken
  · intro action
    cases action

theorem settled_of_leaves {n : DeviceNetwork} (good : n.Leaves []) : Settled n := by
  rcases good with good | good
  · have content : n.deviceOnlineSet ≠ [] := good.filled.resolve_right (by simp)
    exact .inr ⟨"on", good.told.resolve_right (by simp), iff_of_true rfl content⟩
  · have content : n.deviceOnlineSet = [] := good.emptied.resolve_right (by simp)
    have told : n.reported.head? ≠ some "on" := good.told.resolve_right (by simp)
    cases reported : n.reported with
    | nil => exact .inl ⟨reported, content⟩
    | cons value rest =>
        rw [reported] at told
        refine .inr ⟨value, by rw [reported]; rfl, iff_of_false (fun same => told ?_) (not_not_intro content)⟩
        rw [same]
        rfl

/-- When all calls have returned, the last value reported is that of the set, if no call has decided
against another one that had decided and not returned. -/
theorem last_report_matches_online_set (labels : List DeviceLabel)
    (guarded : Runs.Guarded step (fun x label => x.agrees label = true) init labels)
    (returned : (Runs.run step init labels).inFlight = []) : Settled (Runs.run step init labels).shared := by
  apply settled_of_leaves
  rw [← returned]
  refine Runs.guarded_invariant (fun x : DeviceMachine => x.shared.Leaves x.inFlight)
    (fun x label agreed good => step_leaves agreed good) guarded (.inr ?_)
  exact ⟨by simp [init, inFlight], .inl rfl, .inl (by simp [init])⟩

/-- Two devices come, and one of them goes while the other's report is on its way. -/
def twoDevices : List DeviceLabel :=
  [.call (.onDeviceOnline "phone"), .run (some 0) (), .run (some 0) (), .call (.onDeviceOnline "watch"),
    .run (some 1) (), .call (.onDeviceOffline "phone"), .run (some 2) (), .run (some 1) (),
    .call (.reportMissedEvents (some ["watch"])), .run (some 3) (), .run (some 3) (), .run (some 3) ()]

theorem twoDevices_is_settled : Settled (Runs.run step init twoDevices).shared :=
  last_report_matches_online_set twoDevices (by decide +kernel) (by decide +kernel)

/-- A device goes before its coming has been reported. -/
def lateReport : List DeviceLabel :=
  [.call (.onDeviceOnline "phone"), .run (some 0) (), .call (.onDeviceOffline "phone"), .run (some 1) (),
    .run (some 1) (), .run (some 0) ()]

theorem late_report_is_stale :
    ¬ ∀ labels : List DeviceLabel, (Runs.run step init labels).inFlight = [] →
      Settled (Runs.run step init labels).shared := by
  intro always
  have settled := always lateReport (by decide +kernel)
  have reported : (Runs.run step init lateReport).shared.reported = ["on", "off"] := by decide +kernel
  have content : (Runs.run step init lateReport).shared.deviceOnlineSet = [] := by decide +kernel
  rcases settled with ⟨none, -⟩ | ⟨value, last, same⟩
  · rw [reported] at none
    cases none
  · rw [reported] at last
    exact same.mp (Option.some.inj last).symm content

end DeviceMachine

end Samgr
