import Samgr.Collect.PersistedControls
import Samgr.Lib.Turns

/-! The numbers of saved events. A collector notes for each ability the numbers of the events that were
meant for it, and strikes a number out when its data are removed, five minutes after the event. It
strikes out one note for each ability, so an ability that a dispatch notes twice keeps one. -/
namespace Samgr

namespace CommonEventCollect

/-- A dispatch that finds no ability twice adds the number to the list of each ability it finds. -/
theorem saveCacheCommonEventSaExtraId_list {c : CommonEventCollect} {event : PolicyEvent}
    {saControlList : List PolicyControl} (each : (getCacheCommonEventSa event saControlList).Nodup)
    (saId : Int) :
    (c.saveCacheCommonEventSaExtraId event saControlList).saExtraDataIdMap saId =
      if saId ∈ getCacheCommonEventSa event saControlList then
        c.saExtraDataIdMap saId ++ [event.extraDataId]
      else c.saExtraDataIdMap saId := by
  rw [saveCacheCommonEventSaExtraId]
  generalize getCacheCommonEventSa event saControlList = saIds at each
  induction saIds generalizing c with
  | nil => rfl
  | cons first rest hypothesis =>
      obtain ⟨absent, others⟩ := List.nodup_cons.mp each
      rw [List.foldl_cons, hypothesis others]
      by_cases own : saId = first
      · subst own
        simp [saveSaExtraDataId, absent]
      · simp [saveSaExtraDataId, own]

/-- Nothing but the lists of the abilities is touched by a dispatch. -/
theorem saveCacheCommonEventSaExtraId_rest (c : CommonEventCollect) (event : PolicyEvent)
    (saControlList : List PolicyControl) :
    c.saveCacheCommonEventSaExtraId event saControlList =
      { c with
        saExtraDataIdMap := (c.saveCacheCommonEventSaExtraId event saControlList).saExtraDataIdMap } := by
  rw [saveCacheCommonEventSaExtraId]
  generalize getCacheCommonEventSa event saControlList = saIds
  induction saIds generalizing c with
  | nil => rfl
  | cons saId rest hypothesis =>
      rw [List.foldl_cons, hypothesis]
      rfl

end CommonEventCollect

/-- A collector at work. `saved` are the events it has saved, the oldest first, of which the first
`removed` are no longer stored; `reported` are the events that are still to be dispatched, with their
places among the saved; and `notedFor` is the place of the event for which an ability last had a number
noted. The source has the collector and the posted reports only. -/
structure EventDesk where
  collect : CommonEventCollect := {}
  saved : List OnDemandReasonExtraData := []
  removed : Nat := 0
  reported : List (Nat × PolicyEvent) := []
  notedFor : Int → Int → Option Nat := fun _ _ => none

inductive DeskLabel where
  | onReceiveEvent (data : CommonEventData)
  | processOnDemandEvent (index : Nat) (saControlList : List PolicyControl)
  | clearSaExtraDataId (saId : Int)
  | removeOnDemandReasonExtraData

namespace EventDesk

open CommonEventCollect (getCacheCommonEventSa)

variable (x : EventDesk)

def onReceiveEvent (data : CommonEventData) : EventDesk :=
  let kept := x.collect.saveOnDemandReasonExtraData data
  let event : PolicyEvent :=
    { eventId := COMMON_EVENT, name := data.action, value := toString data.code, extraDataId := kept.2 }
  { x with
    collect := kept.1
    saved := x.saved ++ [data.extraData]
    reported := x.reported ++ [(x.saved.length, event)] }

/-- One of the posted reports is dispatched to the controls that it has been found to ask for. -/
def processOnDemandEvent (index : Nat) (saControlList : List PolicyControl) : EventDesk :=
  match x.reported[index]? with
  | none => x
  | some (place, event) =>
      { x with
        collect := x.collect.saveCacheCommonEventSaExtraId event saControlList
        reported := x.reported.eraseIdx index
        notedFor := fun saId extraDataId =>
          if saId ∈ getCacheCommonEventSa event saControlList ∧ extraDataId = event.extraDataId then
            some place
          else x.notedFor saId extraDataId }

/-- All removals have the same delay, so the one that was sent first comes first. -/
def removeFirst : EventDesk :=
  match x.collect.removals with
  | [] => x
  | extraDataId :: removals =>
      { x with
        collect := { x.collect with removals }.removeOnDemandReasonExtraData extraDataId
        removed := x.removed + 1 }

def step : DeskLabel → EventDesk
  | .onReceiveEvent data => x.onReceiveEvent data
  | .processOnDemandEvent index saControlList => x.processOnDemandEvent index saControlList
  | .clearSaExtraDataId saId => { x with collect := x.collect.clearSaExtraDataId saId }
  | .removeOnDemandReasonExtraData => x.removeFirst

/-- Fewer numbers are out than there are when one is given out. -/
def hasRoom : DeskLabel → Bool
  | .onReceiveEvent _ => x.collect.removals.length < MAX_EXTRA_DATA_ID
  | _ => true

/-- A dispatch notes no ability twice, and notes a number only while its event is stored. -/
def notesOnce : DeskLabel → Bool
  | .processOnDemandEvent index saControlList =>
      (x.reported[index]?).all fun report =>
        let saIds := getCacheCommonEventSa report.2 saControlList
        saIds.Nodup && (saIds.isEmpty || decide (x.removed ≤ report.1))
  | _ => true

/-- What the removal of a number leaves does not hold it, no ability has a number noted twice, and each
number an ability is told leads to the event for which it was noted. -/
structure Sound : Prop where
  forgotten : ∀ extraDataId saId,
    extraDataId ∉ (x.collect.removeOnDemandReasonExtraData extraDataId).saExtraDataIdMap saId
  single : ∀ saId, (x.collect.saExtraDataIdMap saId).Nodup
  resolved : ∀ saId eventName, ∀ extraDataId ∈ x.collect.getSaExtraDataIdList saId eventName,
    ∃ place data, x.notedFor saId extraDataId = some place ∧ x.saved[place]? = some data ∧
      x.collect.getOnDemandReasonExtraData extraDataId = some data

/-- The number of the event at a place. -/
def numberAt (place : Nat) : Int := Turns.number MAX_EXTRA_DATA_ID place

/-- The numbers that are out are those of the events that are stored, and a number that is noted is that
of a stored event that has been dispatched. -/
structure Tracked : Prop where
  working : x.collect.workHandler = true
  bound : x.removed ≤ x.saved.length
  few : x.saved.length - x.removed ≤ MAX_EXTRA_DATA_ID.toNat
  counter : x.collect.extraDataId = Turns.last MAX_EXTRA_DATA_ID x.saved.length
  queue : x.collect.removals = Turns.window MAX_EXTRA_DATA_ID x.removed x.saved.length
  stored : ∀ place, x.removed ≤ place → ∀ data, x.saved[place]? = some data →
    x.collect.extraDatas (numberAt place) = some data
  noted : ∀ saId, ∀ extraDataId ∈ x.collect.saExtraDataIdMap saId, ∃ place,
    x.notedFor saId extraDataId = some place ∧ x.removed ≤ place ∧ place < x.saved.length ∧
      extraDataId = numberAt place ∧ place ∉ x.reported.map Prod.fst
  single : ∀ saId, (x.collect.saExtraDataIdMap saId).Nodup
  pending : ∀ report ∈ x.reported, report.1 < x.saved.length ∧ report.2.extraDataId = numberAt report.1
  once : (x.reported.map Prod.fst).Nodup

variable {x}

/-- No two stored events have the same number. -/
theorem place_eq_of_numberAt_eq {removed total place other : Nat}
    (few : total - removed ≤ MAX_EXTRA_DATA_ID.toNat) (after : removed ≤ place) (before : place < total)
    (later : removed ≤ other) (earlier : other < total) (same : numberAt place = numberAt other) :
    place = other := by
  have size : MAX_EXTRA_DATA_ID.toNat = 1000000000 := rfl
  have value : MAX_EXTRA_DATA_ID = 1000000000 := rfl
  exact Turns.turn_eq_of_number_eq (by omega) (by omega) same

/-- A report that is dispatched leaves no other for its event. -/
theorem place_gone {reported : List (Nat × PolicyEvent)} {index : Nat} {report : Nat × PolicyEvent}
    (once : (reported.map Prod.fst).Nodup) (found : reported[index]? = some report) :
    report.1 ∉ (reported.eraseIdx index).map Prod.fst := by
  intro inside
  rw [← List.eraseIdx_map, List.mem_eraseIdx_iff_getElem?] at inside
  obtain ⟨other, different, same⟩ := inside
  have placed : (reported.map Prod.fst)[index]? = some report.1 := by rw [List.getElem?_map, found]; rfl
  have below : other < (reported.map Prod.fst).length := (List.getElem?_eq_some_iff.mp same).1
  exact different ((List.getElem?_inj below once).mp (same.trans placed.symm))

namespace Tracked

theorem sound (good : x.Tracked) : x.Sound := by
  constructor
  · intro extraDataId saId inside
    exact (good.single saId).not_mem_erase inside
  · exact good.single
  · intro saId eventName extraDataId told
    have listed : extraDataId ∈ x.collect.saExtraDataIdMap saId := by
      rw [CommonEventCollect.getSaExtraDataIdList] at told
      split at told
      · exact told
      · exact List.mem_of_mem_filter told
    obtain ⟨place, noted, after, before, rfl, -⟩ := good.noted saId extraDataId listed
    have there : x.saved[place]? = some x.saved[place] := List.getElem?_eq_getElem before
    exact ⟨place, x.saved[place], noted, there, good.stored place after _ there⟩

theorem start : Tracked {} where
  working := rfl
  bound := Nat.le_refl 0
  few := by decide
  counter := rfl
  queue := (Turns.window_of_le (Nat.le_refl 0)).symm
  stored := by simp
  noted := by simp
  single := by simp
  pending := by simp
  once := by simp

/-- The collector gives an event the number of its place. -/
theorem save_eq (good : x.Tracked) (data : CommonEventData) :
    x.collect.saveOnDemandReasonExtraData data =
      ({ x.collect with
        extraDataId := numberAt x.saved.length
        extraDatas := Function.update x.collect.extraDatas (numberAt x.saved.length) (some data.extraData)
        removals := x.collect.removals ++ [numberAt x.saved.length] }, numberAt x.saved.length) := by
  have given : x.collect.generateExtraDataIdLocked = numberAt x.saved.length := by
    have next : x.collect.generateExtraDataIdLocked =
        Turns.next MAX_EXTRA_DATA_ID x.collect.extraDataId := rfl
    rw [next, good.counter]
    exact Turns.next_last (by decide)
  simp only [CommonEventCollect.saveOnDemandReasonExtraData, good.working, if_true, given]

theorem few_of_room (good : x.Tracked) (room : x.collect.removals.length < MAX_EXTRA_DATA_ID) :
    x.saved.length + 1 - x.removed ≤ MAX_EXTRA_DATA_ID.toNat := by
  rw [good.queue, Turns.length_window] at room
  have value : MAX_EXTRA_DATA_ID = 1000000000 := rfl
  have size : MAX_EXTRA_DATA_ID.toNat = 1000000000 := rfl
  have bound := good.bound
  omega

/-- The number of a new event is that of no event that is still stored. -/
theorem numberAt_ne_new (good : x.Tracked)
    (few : x.saved.length + 1 - x.removed ≤ MAX_EXTRA_DATA_ID.toNat) {place : Nat}
    (after : x.removed ≤ place) (before : place < x.saved.length) :
    numberAt place ≠ numberAt x.saved.length := by
  intro same
  have equal : place = x.saved.length :=
    place_eq_of_numberAt_eq few after (by omega) good.bound (by omega) same
  omega

theorem onReceiveEvent (good : x.Tracked) (data : CommonEventData)
    (room : x.collect.removals.length < MAX_EXTRA_DATA_ID) : (x.onReceiveEvent data).Tracked := by
  have few := good.few_of_room room
  have kept := good.save_eq data
  have grown : (x.onReceiveEvent data).saved.length = x.saved.length + 1 := by
    simp [EventDesk.onReceiveEvent]
  have bound := good.bound
  constructor
  case working => simp only [EventDesk.onReceiveEvent, kept, good.working]
  case bound =>
    rw [grown]
    exact Nat.le_succ_of_le bound
  case few =>
    rw [grown]
    exact few
  case counter =>
    rw [grown]
    simp only [EventDesk.onReceiveEvent, kept]
    rfl
  case queue =>
    rw [grown]
    simp only [EventDesk.onReceiveEvent, kept, good.queue]
    exact (Turns.window_push bound).symm
  case stored =>
    intro place after other found
    simp only [EventDesk.onReceiveEvent, kept] at found ⊢
    by_cases newest : place = x.saved.length
    · subst newest
      rw [Function.update_self]
      simpa using found
    · have inside : place < x.saved.length := by
        have last := (List.getElem?_eq_some_iff.mp found).1
        rw [List.length_append, List.length_singleton] at last
        omega
      rw [List.getElem?_append_left inside] at found
      rw [Function.update_of_ne (good.numberAt_ne_new few after inside)]
      exact good.stored place after other found
  case noted =>
    intro saId extraDataId listed
    simp only [EventDesk.onReceiveEvent, kept] at listed
    obtain ⟨place, noted, after, before, number, dispatched⟩ := good.noted saId extraDataId listed
    refine ⟨place, noted, after, by rw [grown]; omega, number, ?_⟩
    simp only [EventDesk.onReceiveEvent, List.map_append, List.mem_append, not_or]
    refine ⟨dispatched, fun newest => ?_⟩
    have last : place = x.saved.length := by simpa using newest
    omega
  case single =>
    intro saId
    simp only [EventDesk.onReceiveEvent, kept]
    exact good.single saId
  case pending =>
    intro report listed
    rw [grown]
    simp only [EventDesk.onReceiveEvent, kept, List.mem_append, List.mem_singleton] at listed
    rcases listed with old | rfl
    · obtain ⟨before, number⟩ := good.pending report old
      exact ⟨by omega, number⟩
    · exact ⟨Nat.lt_succ_self _, rfl⟩
  case once =>
    simp only [EventDesk.onReceiveEvent, List.map_append]
    apply List.nodup_append.mpr
    refine ⟨good.once, List.nodup_singleton _, ?_⟩
    intro place old last newest
    obtain ⟨report, listed, rfl⟩ := List.mem_map.mp old
    obtain rfl : last = x.saved.length := by simpa using newest
    exact Nat.ne_of_lt (good.pending report listed).1

theorem clear (good : x.Tracked) (saId : Int) :
    Tracked { x with collect := x.collect.clearSaExtraDataId saId } := by
  have inside : ∀ other, ∀ extraDataId ∈ (x.collect.clearSaExtraDataId saId).saExtraDataIdMap other,
      extraDataId ∈ x.collect.saExtraDataIdMap other := by
    intro other extraDataId listed
    by_cases same : other = saId
    · simp [CommonEventCollect.clearSaExtraDataId, same] at listed
    · simpa [CommonEventCollect.clearSaExtraDataId, Function.update_of_ne same] using listed
  refine { good with noted := ?_, single := ?_ }
  · intro other extraDataId listed
    exact good.noted other extraDataId (inside other extraDataId listed)
  · intro other
    by_cases same : other = saId
    · simp [CommonEventCollect.clearSaExtraDataId, same]
    · simpa [CommonEventCollect.clearSaExtraDataId, Function.update_of_ne same] using good.single other

theorem removeFirst (good : x.Tracked) : x.removeFirst.Tracked := by
  cases out : x.collect.removals with
  | nil =>
      simp only [EventDesk.removeFirst, out]
      exact good
  | cons extraDataId removals =>
      have queue := good.queue
      rw [out] at queue
      have inside : x.removed < x.saved.length := by
        by_contra none
        rw [Turns.window_of_le (by omega)] at queue
        cases queue
      rw [Turns.window_pop inside] at queue
      obtain ⟨first, rest⟩ := List.cons.inj queue
      have few := good.few
      have apart : ∀ place, x.removed + 1 ≤ place → place < x.saved.length → numberAt place ≠ extraDataId := by
        intro place after before same
        have equal : place = x.removed :=
          place_eq_of_numberAt_eq few (by omega) before (Nat.le_refl _) inside (same.trans first)
        omega
      simp only [EventDesk.removeFirst, out]
      constructor
      · exact good.working
      · exact inside
      · show x.saved.length - (x.removed + 1) ≤ MAX_EXTRA_DATA_ID.toNat
        omega
      · exact good.counter
      · exact rest
      · intro place after data found
        have before := (List.getElem?_eq_some_iff.mp found).1
        simp only [CommonEventCollect.removeOnDemandReasonExtraData, CommonEventCollect.removeSaExtraDataId,
          Function.update_of_ne (apart place after before)]
        exact good.stored place (Nat.le_of_succ_le after) data found
      · intro saId other listed
        simp only [CommonEventCollect.removeOnDemandReasonExtraData,
          CommonEventCollect.removeSaExtraDataId] at listed
        obtain ⟨different, old⟩ := (good.single saId).mem_erase_iff.mp listed
        obtain ⟨place, noted, after, before, number, dispatched⟩ := good.noted saId other old
        have later : x.removed ≠ place := by
          intro same
          apply different
          rw [number, ← same]
          exact first.symm
        have remains : x.removed + 1 ≤ place := by omega
        exact ⟨place, noted, remains, before, number, dispatched⟩
      · intro saId
        exact (good.single saId).erase extraDataId
      · exact good.pending
      · exact good.once

/-- The number of an event that is stored and has not been dispatched is noted for no ability. -/
theorem not_noted (good : x.Tracked) {report : Nat × PolicyEvent} (member : report ∈ x.reported)
    (after : x.removed ≤ report.1) (saId : Int) :
    report.2.extraDataId ∉ x.collect.saExtraDataIdMap saId := by
  intro listed
  obtain ⟨before, number⟩ := good.pending report member
  obtain ⟨other, -, later, earlier, same, dispatched⟩ := good.noted saId _ listed
  have equal : report.1 = other :=
    place_eq_of_numberAt_eq good.few after before later earlier (number.symm.trans same)
  rw [← equal] at dispatched
  exact dispatched (List.mem_map_of_mem member)

theorem processOnDemandEvent (good : x.Tracked) (index : Nat) (saControlList : List PolicyControl)
    (once : x.notesOnce (.processOnDemandEvent index saControlList) = true) :
    (x.processOnDemandEvent index saControlList).Tracked := by
  cases found : x.reported[index]? with
  | none =>
      simp only [EventDesk.processOnDemandEvent, found]
      exact good
  | some report =>
      obtain ⟨place, event⟩ := report
      simp only [notesOnce, found, Option.all_some, Bool.and_eq_true, decide_eq_true_eq, Bool.or_eq_true,
        List.isEmpty_iff] at once
      obtain ⟨each, alive⟩ := once
      have member : (place, event) ∈ x.reported := List.mem_of_getElem? found
      obtain ⟨before, number⟩ := good.pending (place, event) member
      have fresh : ∀ saId ∈ getCacheCommonEventSa event saControlList,
          event.extraDataId ∉ x.collect.saExtraDataIdMap saId := by
        intro saId inside
        apply good.not_noted member
        exact alive.resolve_left fun empty => by rw [empty] at inside; cases inside
      have fewer : (x.reported.eraseIdx index).Sublist x.reported := List.eraseIdx_sublist ..
      have gone : place ∉ (x.reported.eraseIdx index).map Prod.fst := place_gone good.once found
      have rest := x.collect.saveCacheCommonEventSaExtraId_rest event saControlList
      have list := fun saId => CommonEventCollect.saveCacheCommonEventSaExtraId_list (c := x.collect) each saId
      generalize (x.collect.saveCacheCommonEventSaExtraId event saControlList).saExtraDataIdMap = lists
        at list rest
      simp only [EventDesk.processOnDemandEvent, found, rest]
      refine { good with noted := ?_, single := ?_, pending := ?_, once := ?_ }
      · intro saId extraDataId (listed : extraDataId ∈ lists saId)
        rw [list] at listed
        by_cases noting : saId ∈ getCacheCommonEventSa event saControlList ∧ extraDataId = event.extraDataId
        · have after : x.removed ≤ place :=
            alive.resolve_left fun empty => by rw [empty] at noting; cases noting.1
          exact ⟨place, if_pos noting, after, before, noting.2.trans number, gone⟩
        · have old : extraDataId ∈ x.collect.saExtraDataIdMap saId := by
            split at listed
            · rename_i inside
              rcases List.mem_append.mp listed with old | new
              · exact old
              · exact absurd ⟨inside, List.mem_singleton.mp new⟩ noting
            · exact listed
          obtain ⟨other, noted, after, earlier, same, dispatched⟩ := good.noted saId extraDataId old
          refine ⟨other, (if_neg noting).trans noted, after, earlier, same, fun inside => ?_⟩
          exact dispatched ((fewer.map Prod.fst).subset inside)
      · intro saId
        show (lists saId).Nodup
        rw [list]
        split
        · rename_i inside
          refine List.nodup_append.mpr ⟨good.single saId, List.nodup_singleton _, ?_⟩
          intro noted old new last same
          rw [List.mem_singleton.mp last] at same
          exact fresh saId inside (same ▸ old)
        · exact good.single saId
      · exact fun report inside => good.pending report (fewer.subset inside)
      · exact good.once.sublist (fewer.map Prod.fst)

end Tracked

/-- A collector without a handler reports its events without a number, so it never notes one. -/
structure Unnumbered (x : EventDesk) : Prop where
  idle : x.collect.workHandler = false
  queue : x.collect.removals = []
  empty : ∀ saId, x.collect.saExtraDataIdMap saId = []
  bare : ∀ report ∈ x.reported, report.2.extraDataId = -1

namespace Unnumbered

theorem sound (good : x.Unnumbered) : x.Sound := by
  constructor
  · intro extraDataId saId inside
    simp [CommonEventCollect.removeOnDemandReasonExtraData, CommonEventCollect.removeSaExtraDataId,
      good.empty] at inside
  · intro saId
    rw [good.empty]
    exact List.nodup_nil
  · intro saId eventName extraDataId told
    simp [CommonEventCollect.getSaExtraDataIdList, good.empty] at told

theorem step (good : x.Unnumbered) (label : DeskLabel) : (x.step label).Unnumbered := by
  cases label with
  | onReceiveEvent data =>
      have kept : x.collect.saveOnDemandReasonExtraData data =
          ({ x.collect with
            extraDataId := x.collect.generateExtraDataIdLocked
            extraDatas := Function.update x.collect.extraDatas x.collect.generateExtraDataIdLocked
              (some data.extraData) }, -1) := by
        simp only [CommonEventCollect.saveOnDemandReasonExtraData, good.idle, Bool.false_eq_true, if_false]
      simp only [EventDesk.step, onReceiveEvent, kept]
      refine ⟨good.idle, good.queue, good.empty, fun report listed => ?_⟩
      rcases List.mem_append.mp listed with old | new
      · exact good.bare report old
      · rw [List.mem_singleton.mp new]
  | processOnDemandEvent index saControlList =>
      simp only [EventDesk.step, processOnDemandEvent]
      split
      · exact good
      · rename_i place event found
        have bare : event.extraDataId = -1 := good.bare _ (List.mem_of_getElem? found)
        have none : getCacheCommonEventSa event saControlList = [] := by
          simp [getCacheCommonEventSa, bare]
        have same : x.collect.saveCacheCommonEventSaExtraId event saControlList = x.collect := by
          rw [CommonEventCollect.saveCacheCommonEventSaExtraId, none]
          rfl
        simp only [same]
        refine ⟨good.idle, good.queue, good.empty, fun report listed => ?_⟩
        exact good.bare report (List.mem_of_mem_eraseIdx listed)
  | clearSaExtraDataId saId =>
      refine ⟨good.idle, good.queue, fun other => ?_, good.bare⟩
      by_cases same : other = saId
      · simp [EventDesk.step, CommonEventCollect.clearSaExtraDataId, same]
      · simpa [EventDesk.step, CommonEventCollect.clearSaExtraDataId, same] using good.empty other
  | removeOnDemandReasonExtraData =>
      simp only [EventDesk.step, removeFirst, good.queue]
      exact good

end Unnumbered

theorem Tracked.step (good : x.Tracked) (label : DeskLabel) (room : x.hasRoom label = true)
    (once : x.notesOnce label = true) : (x.step label).Tracked := by
  cases label with
  | onReceiveEvent data => exact good.onReceiveEvent data (by simpa [hasRoom] using room)
  | processOnDemandEvent index saControlList => exact good.processOnDemandEvent index saControlList once
  | clearSaExtraDataId saId => exact good.clear saId
  | removeOnDemandReasonExtraData => exact good.removeFirst

/-- The desk of a collector before any event. -/
def init (workHandler : Bool) : EventDesk := { collect := { workHandler } }

/-- No number dangles in any state of a run in which fewer numbers are out than there are when one is
given out, and each dispatch finds an ability once, while its event is stored. -/
theorem noted_numbers_never_dangle (workHandler : Bool) (labels : List DeskLabel)
    (guarded : Runs.Guarded step (fun x label => x.hasRoom label = true ∧ x.notesOnce label = true)
      (init workHandler) labels) :
    (Runs.run step (init workHandler) labels).Sound := by
  cases workHandler with
  | false =>
      have start : (init false).Unnumbered := ⟨rfl, rfl, fun _ => rfl, by simp [init]⟩
      exact (Runs.run_invariant Unnumbered (fun x label good => good.step label) labels start).sound
  | true =>
      apply Tracked.sound
      exact Runs.guarded_invariant Tracked (fun x label cond good => good.step label cond.1 cond.2) guarded
        Tracked.start

def powerEvent : CommonEventData := { code := 7, action := "usual.event.POWER" }

/-- What the event is reported as when it is the first. -/
def firstReport : PolicyEvent :=
  { eventId := COMMON_EVENT, name := "usual.event.POWER", value := toString (7 : Int), extraDataId := 1 }

/-- Ability 3 caches its events; it is started for every power event, and stopped for code 7. -/
def powerProfile : CollMgrSaProfile :=
  { saId := 3
    startOnDemandEvents := [{ eventId := COMMON_EVENT, name := "usual.event.POWER" }]
    stopOnDemandEvents :=
      [{ eventId := COMMON_EVENT, name := "usual.event.POWER", value := toString (7 : Int) }]
    cacheCommonEvent := true }

/-- The list that a new manager makes for the report. -/
def powerControls (profile : CollMgrSaProfile) : List PolicyControl :=
  (CollectState.init ∅ [profile]).reportEvent CollectState.splitAtPlus
    (fun eventId => if eventId = COMMON_EVENT then some {} else none) firstReport

/-- The event is received, dispatched, and removed. -/
def onePowerEvent (profile : CollMgrSaProfile) : List DeskLabel :=
  [.onReceiveEvent powerEvent,
    .processOnDemandEvent 0 (powerControls profile),
    .removeOnDemandReasonExtraData]

theorem started_ability_keeps_no_number :
    Runs.Guarded step (fun x label => x.hasRoom label = true ∧ x.notesOnce label = true) (init true)
        (onePowerEvent { powerProfile with stopOnDemandEvents := [] }) ∧
      (Runs.run step (init true) (onePowerEvent { powerProfile with stopOnDemandEvents := [] })).Sound :=
  ⟨by decide +kernel, noted_numbers_never_dangle true _ (by decide +kernel)⟩

/-- The number stays after its removal when the ability is started and stopped for the event. -/
theorem started_and_stopped_ability_keeps_number :
    ¬ ∀ (workHandler : Bool) (labels : List DeskLabel),
      Runs.Guarded step (fun x label => x.hasRoom label = true) (init workHandler) labels →
      (Runs.run step (init workHandler) labels).Sound := by
  intro always
  have sound := always true (onePowerEvent powerProfile) (by decide +kernel)
  have kept : (Runs.run step (init true) (onePowerEvent powerProfile)).collect.saExtraDataIdMap 3 = [1] := by
    decide +kernel
  obtain ⟨place, data, -, -, stored⟩ := sound.resolved 3 "" 1 (by
    rw [CommonEventCollect.getSaExtraDataIdList, if_pos rfl, kept]
    exact List.mem_singleton_self 1)
  have none : (Runs.run step (init true) (onePowerEvent powerProfile)).collect.getOnDemandReasonExtraData 1 =
      none := by
    decide +kernel
  rw [none] at stored
  cases stored

end EventDesk

end Samgr
