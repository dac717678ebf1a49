import Samgr.Collect.Updates
import Samgr.Lib.Runs

/-! The common events that are watched, and those that are needed: by a policy, by a condition of
one, or by the collector itself. An update looks at the names of events only. -/
namespace Samgr

namespace CollectState

open CommonEventCollect

variable {s : CollectState} {u : PolicyUpdate}

/-- The names whose events must be delivered. -/
def Needs (s : CollectState) (name : String) : Prop :=
  name ∈ ownEventNames ∨
    ∃ event ∈ s.events,
      (event.eventId = COMMON_EVENT ∧ event.name = name) ∨ name ∈ conditionNames event

def WatchesNeeded (s : CollectState) : Prop := ∀ name, s.Needs name → name ∈ s.commonEventNames

/-- The names in the conditions of the new events are watched already, or are among the names of the
new events; and no name that is withdrawn stands in a condition or is the collector's own. -/
def keepsNeeded (s : CollectState) (u : PolicyUpdate) : Bool :=
  (u.events.flatMap conditionNames).all (fun name =>
      s.commonEventNames.contains name ||
        u.events.any fun event => event.eventId == COMMON_EVENT && event.name == name) &&
    (s.withdrawnEvents u).all fun event =>
      event.eventId != COMMON_EVENT ||
        (!(ownEventNames.contains event.name) &&
          !((s.eventsAfter u).any fun other => (conditionNames other).contains event.name))

theorem keepsNeeded_iff : s.keepsNeeded u = true ↔
    (∀ event ∈ u.events, ∀ name ∈ conditionNames event, name ∈ s.commonEventNames ∨
      ∃ other ∈ u.events, other.eventId = COMMON_EVENT ∧ other.name = name) ∧
    ∀ event ∈ s.withdrawnEvents u, event.eventId = COMMON_EVENT →
      event.name ∉ ownEventNames ∧ ∀ other ∈ s.eventsAfter u, event.name ∉ conditionNames other := by
  rw [keepsNeeded, Bool.and_eq_true]
  refine and_congr ?_ ?_
  · simp only [List.all_eq_true, List.mem_flatMap, Bool.or_eq_true, Std.TreeSet.contains_iff_mem,
      List.any_eq_true, Bool.and_eq_true, beq_iff_eq]
    exact ⟨fun all event member name inside => all name ⟨event, member, inside⟩,
      fun all name inside => inside.elim fun event found => all event found.1 name found.2⟩
  · simp only [List.all_eq_true, Bool.or_eq_true, bne_iff_ne, ne_eq, Bool.and_eq_true,
      Bool.not_eq_true', List.contains_iff_mem, ← Bool.not_eq_true, List.any_eq_true, not_exists,
      not_and]
    exact forall₂_congr fun event member => Decidable.imp_iff_not_or.symm

theorem watchesNeeded_init (preferencesUtil : PreferencesUtil) (saProfiles : List CollMgrSaProfile) :
    (init preferencesUtil saProfiles).WatchesNeeded := by
  rintro name needed
  simp only [Needs, events_init] at needed
  change name ∈ Runs.run initCommonEventState (insertNames ∅ ownEventNames)
    (saProfiles.flatMap CollMgrSaProfile.events)
  rw [Runs.run_adds initCommonEventState (name ∈ ·) (fun _ _ => mem_initCommonEventState),
    mem_insertNames]
  rcases needed with own | used
  · exact .inl (.inr own)
  · exact .inr used

/-- A common event that is in use is never withdrawn. -/
theorem not_withdrawn_of_used {event other : PolicyEvent} (member : other ∈ s.eventsAfter u)
    (used : other.eventId = COMMON_EVENT) (own : event.eventId = COMMON_EVENT)
    (same : event.name = other.name) : event ∉ s.withdrawnEvents u := by
  intro withdrawn
  rw [withdrawnEvents, List.mem_filter, Bool.not_eq_true'] at withdrawn
  have inUse : (s.replacement u).2.checkEventUsed event = true := by
    refine checkEventUsed_iff.mpr ⟨other, member, ?_⟩
    simp [isSameEventName, own, used, same, COMMON_EVENT, TIMED_EVENT]
  rw [inUse] at withdrawn
  exact Bool.false_ne_true withdrawn.2.symm

theorem watchesNeeded_update_iff (succeeded : s.succeeds u = true) (before : s.WatchesNeeded) :
    (s.update u).WatchesNeeded ↔ s.keepsNeeded u = true := by
  obtain ⟨-, same, -⟩ := update_parts succeeded
  obtain ⟨new, origin, -, -⟩ := mem_eventsAfter succeeded
  rw [keepsNeeded_iff]
  constructor
  · intro watches
    constructor
    · intro event member name condition
      have needed : (s.update u).Needs name :=
        .inr ⟨event, by rw [same]; exact new event member, .inr condition⟩
      exact ((mem_update_names succeeded).mp (watches name needed)).1
    · intro event withdrawn own
      have gone : event.name ∉ (s.update u).commonEventNames := fun member =>
        ((mem_update_names succeeded).mp member).2 ⟨event, withdrawn, own, rfl⟩
      refine ⟨fun mine => gone (watches _ (.inl mine)), fun other member condition => ?_⟩
      exact gone (watches _ (.inr ⟨other, by rw [same]; exact member, .inr condition⟩))
  · rintro ⟨conditions, withdrawals⟩ name needed
    rw [mem_update_names succeeded]
    constructor
    · rcases needed with mine | ⟨event, member, used⟩
      · exact .inl (before name (.inl mine))
      · rw [same] at member
        rcases origin event member with fresh | old
        · rcases used with ⟨own, rfl⟩ | condition
          · exact .inr ⟨event, fresh, own, rfl⟩
          · exact conditions event fresh name condition
        · exact .inl (before name (.inr ⟨event, old, used⟩))
    · rintro ⟨event, withdrawn, own, rfl⟩
      obtain ⟨foreign, unconditioned⟩ := withdrawals event withdrawn own
      rcases needed with mine | ⟨other, member, ⟨used, name⟩ | condition⟩
      · exact foreign mine
      · rw [same] at member
        exact not_withdrawn_of_used member used own name.symm withdrawn
      · rw [same] at member
        exact unconditioned other member condition

/-- All along a run of updates the needed names are watched exactly when every update adds the names
of its conditions and withdraws none that is needed. -/
theorem common_events_stay_watched_iff (preferencesUtil : PreferencesUtil)
    (saProfiles : List CollMgrSaProfile) (updates : List PolicyUpdate)
    (succeed : Runs.Guarded update (fun s u => s.succeeds u = true) (init preferencesUtil saProfiles)
      updates) :
    (∀ before, before <+: updates →
        (Runs.run update (init preferencesUtil saProfiles) before).WatchesNeeded) ↔
      Runs.Guarded update (fun s u => s.keepsNeeded u = true) (init preferencesUtil saProfiles)
        updates :=
  Runs.forall_prefix_iff_guarded_of WatchesNeeded
    (fun _ _ succeeded keeps before => (watchesNeeded_update_iff succeeded before).mpr keeps)
    (fun _ watches => watches)
    (fun _ _ succeeded before loses watches =>
      loses ((watchesNeeded_update_iff succeeded before).mp watches))
    succeed (watchesNeeded_init preferencesUtil saProfiles)

section Sample

/-- One ability, with a stop policy that stays. -/
def oneProfile : List CollMgrSaProfile :=
  [{ saId := 1401, startOnDemandEvents := []
     stopOnDemandEvents := [{ eventId := PARAM, name := "bootevent.boot.completed", value := "true" }] }]

/-- The policy is set, and an event of the collector's own is set and withdrawn. -/
def ownEventWithdrawn : List PolicyUpdate :=
  let screenOn : PolicyEvent :=
    { eventId := COMMON_EVENT, name := "usual.event.SCREEN_ON", value := "" }
  [{ systemAbilityId := 1401, type := START_POLICY, events := [screenOn] },
    { systemAbilityId := 1401, type := START_POLICY, events := [] }]

theorem oneProfile_stays_watched :
    (∀ before, before <+: ownEventWithdrawn →
        (Runs.run update (init ∅ oneProfile) before).WatchesNeeded) ↔
      Runs.Guarded update (fun s u => s.keepsNeeded u = true) (init ∅ oneProfile) ownEventWithdrawn :=
  common_events_stay_watched_iff ∅ oneProfile ownEventWithdrawn (by decide +kernel)

/-- The collector no longer hears that the screen comes on. -/
theorem own_event_is_withdrawn : ¬ ∀ (saProfiles : List CollMgrSaProfile) (updates : List PolicyUpdate),
    Runs.Guarded update (fun s u => s.succeeds u = true) (init ∅ saProfiles) updates →
      (Runs.run update (init ∅ saProfiles) updates).WatchesNeeded := by
  intro always
  have watched := always oneProfile ownEventWithdrawn (by decide +kernel) "usual.event.SCREEN_ON"
    (.inl (by decide))
  revert watched
  decide +kernel

end Sample

end CollectState

end Samgr
