import Samgr.Collect.State
import Samgr.Lib.Threads

/-! The subscription of the common event collector with the event service. A call that adds names holds
the subscriber's lock until the service has answered, but the names have a lock of their own, which is
taken for one section at a time: a name can be withdrawn between any two of them. The service may refuse,
may lose what it had on record, and may start anew. -/
namespace Samgr

/-- `served` is what the event service delivers to the subscriber, if it has it on record; `accepted` are
the names for which the call that inserted them last has had success, which the source does not keep. -/
structure CommonEventSubscription where
  commonEventNames : Std.TreeSet String
  commonEventSubscriber : Option (Std.TreeSet String) := none
  served : Option (Std.TreeSet String) := none
  accepted : List String

namespace CommonEventSubscription

/-- What the event service makes of a subscription. One that it refuses may cost the older one. -/
inductive Answer where
  | accepted
  | refused
  | lost

/-- On whose behalf the collector subscribes: of the service that has come up, of a call that has inserted
names, or of such a call once the names are out again. -/
inductive Attempt where
  | ready
  | adding (insertNames : List String)
  | cleaned

inductive Call where
  | addCollectEvent (events : List PolicyEvent)
  /-- `SUB_COMMON_EVENT`. -/
  | createCommonEventSubscriber
  | removeUnusedEvent (event : PolicyEvent)

inductive Piece where
  | addCommonEventName (events : List PolicyEvent)
  | createCommonEventSubscriber
  | addSkillsEvent (attempt : Attempt)
  | subscribe (skill : Std.TreeSet String) (attempt : Attempt)
  | cleanFailedEventLocked (eventNames : List String)
  | removeUnusedEvent (event : PolicyEvent)

/-- The names that the call of the piece has inserted and may still take back. -/
def Piece.inserted : Piece → List String
  | .addSkillsEvent (.adding insertNames) => insertNames
  | .subscribe _ (.adding insertNames) => insertNames
  | .cleanFailedEventLocked eventNames => eventNames
  | _ => []

def enter : Call → List Piece
  | .addCollectEvent events => [.addCommonEventName events]
  | .createCommonEventSubscriber => [.createCommonEventSubscriber]
  | .removeUnusedEvent event => [.removeUnusedEvent event]

variable (s : CommonEventSubscription)

def addCommonEventName (events : List PolicyEvent) : CommonEventSubscription × List Piece :=
  let added := CommonEventCollect.addCommonEventName s.commonEventNames events
  ({ s with
      commonEventNames := added.1
      accepted := s.accepted.filter (· ∉ added.2) },
    if added.2.isEmpty then [] else [.addSkillsEvent (.adding added.2)])

/-- `SubscribeCommonEvent` for a new subscriber, `SetSubscribeInfo` and `Subscribe` for the one there is. -/
def subscribe (answer : Answer) (skill : Std.TreeSet String) (attempt : Attempt) :
    CommonEventSubscription × List Piece :=
  let asked := { s with commonEventSubscriber := some skill }
  match answer with
  | .accepted =>
      ({ asked with
        served := some skill
        accepted := (Piece.subscribe skill attempt).inserted ++ s.accepted }, [])
  | .refused => (asked, failed attempt)
  | .lost => ({ asked with served := none }, failed attempt)
where
  failed : Attempt → List Piece
    | .adding insertNames => [.cleanFailedEventLocked insertNames]
    | _ => []

/-- The events go out of a copy of the subscriber's skills, which nobody reads. -/
def cleanFailedEventLocked (eventNames : List String) : CommonEventSubscription :=
  if s.commonEventSubscriber.isNone then s
  else { s with commonEventNames := eventNames.foldl (fun names name => names.erase name) s.commonEventNames }

def removeUnusedEvent (event : PolicyEvent) : CommonEventSubscription :=
  { s with commonEventNames := s.commonEventNames.erase event.name }

def exec (answer : Answer) : Piece → CommonEventSubscription × List Piece
  | .addCommonEventName events => s.addCommonEventName events
  | .createCommonEventSubscriber => (s, [.subscribe s.commonEventNames .ready])
  | .addSkillsEvent attempt => (s, [.subscribe s.commonEventNames attempt])
  | .subscribe skill attempt => s.subscribe answer skill attempt
  | .cleanFailedEventLocked eventNames => (s.cleanFailedEventLocked eventNames, [.addSkillsEvent .cleaned])
  | .removeUnusedEvent event => (s.removeUnusedEvent event, [])

/-- The lock is `commonEventSubscriberLock_`; the action is the event service starting anew. -/
def program : Threads.Program CommonEventSubscription Call Piece Answer Unit Unit where
  enter _ := enter
  exec answer s := s.exec answer
  take _ := none
  act s _ := { s with served := none }
  needs _
    | .addCommonEventName _ | .createCommonEventSubscriber => some ()
    | _ => none
  releases
    | .addSkillsEvent _ | .subscribe _ _ | .cleanFailedEventLocked _ => some ()
    | _ => none

abbrev Machine : Type := Threads.Config CommonEventSubscription Piece

def init (saProfiles : List CollMgrSaProfile) : Machine :=
  { shared :=
      { commonEventNames := CommonEventCollect.initNames saProfiles
        accepted := (CommonEventCollect.initNames saProfiles).toList } }

/-- Somebody who can still take the name back stands for it. -/
def Pending (pieces : List Piece) (name : String) : Prop := ∃ piece ∈ pieces, name ∈ piece.inserted

/-- What the service has on record lacks only names that may still be taken back, and what is about to be
subscribed lacks none. -/
structure Covers (s : CommonEventSubscription) (pieces : List Piece) : Prop where
  served : ∀ served ∈ s.served, ∀ name ∈ s.commonEventNames, name ∈ served ∨ Pending pieces name
  skill : ∀ skill attempt, .subscribe skill attempt ∈ pieces → ∀ name ∈ s.commonEventNames, name ∈ skill
  subscriber : ∀ eventNames, .cleanFailedEventLocked eventNames ∈ pieces → s.commonEventSubscriber.isSome
  asked : ∀ name ∈ s.commonEventNames, name ∈ s.accepted ∨ Pending pieces name

variable {s t : CommonEventSubscription} {piece : Piece} {pieces others made : List Piece} {name : String}

theorem Pending.mono (pending : Pending pieces name) (more : pieces ⊆ others) : Pending others name := by
  obtain ⟨piece, member, inserted⟩ := pending
  exact ⟨piece, more member, inserted⟩

theorem Pending.cases (pending : Pending (piece :: others) name) :
    name ∈ piece.inserted ∨ Pending others name := by
  obtain ⟨holder, member, inserted⟩ := pending
  rcases List.mem_cons.mp member with rfl | member
  · exact .inl inserted
  · exact .inr ⟨holder, member, inserted⟩

/-- Whatever the piece stood for, the pieces it makes stand for, or the name is gone. -/
theorem Pending.pass (pending : Pending (piece :: others) name)
    (handed : name ∈ piece.inserted → Pending made name) : Pending (made ++ others) name := by
  rcases pending.cases with own | other
  · exact (handed own).mono (List.subset_append_left made others)
  · exact other.mono (List.subset_append_right made others)

theorem Covers.perm (same : pieces.Perm others) (covers : s.Covers pieces) : s.Covers others := by
  have moved : ∀ {name}, Pending pieces name → Pending others name := fun pending => pending.mono same.subset
  constructor
  · exact fun served found name watched => (covers.served served found name watched).imp_right moved
  · exact fun skill attempt member => covers.skill skill attempt (same.mem_iff.mpr member)
  · exact fun eventNames member => covers.subscriber eventNames (same.mem_iff.mpr member)
  · exact fun name watched => (covers.asked name watched).imp_right moved

theorem Covers.call (covers : s.Covers pieces) (call : Call) : s.Covers (enter call ++ pieces) := by
  have kept : ∀ {name}, Pending pieces name → Pending (enter call ++ pieces) name := fun pending =>
    pending.mono (List.subset_append_right _ _)
  constructor
  · exact fun served found name watched => (covers.served served found name watched).imp_right kept
  · intro skill attempt member
    refine covers.skill skill attempt ((List.mem_append.mp member).resolve_left ?_)
    cases call <;> simp [enter]
  · intro eventNames member
    refine covers.subscriber eventNames ((List.mem_append.mp member).resolve_left ?_)
    cases call <;> simp [enter]
  · exact fun name watched => (covers.asked name watched).imp_right kept

/-- A piece that inserts no name and leaves the record of the service alone. -/
theorem Covers.quiet (covers : s.Covers (piece :: others)) (served : t.served = s.served)
    (accepted : t.accepted = s.accepted) (subscriber : t.commonEventSubscriber = s.commonEventSubscriber)
    (fewer : ∀ name ∈ t.commonEventNames, name ∈ s.commonEventNames)
    (handed : ∀ name ∈ t.commonEventNames, name ∈ piece.inserted → Pending made name)
    (skill : ∀ skill attempt, .subscribe skill attempt ∈ made → skill = t.commonEventNames)
    (cleans : ∀ eventNames, .cleanFailedEventLocked eventNames ∉ made) : t.Covers (made ++ others) := by
  constructor
  · rw [served]
    intro record found name watched
    exact (covers.served record found name (fewer name watched)).imp_right fun pending =>
      pending.pass (handed name watched)
  · intro asked attempt member name watched
    rcases List.mem_append.mp member with new | old
    · rwa [skill asked attempt new]
    · exact covers.skill asked attempt (List.mem_cons_of_mem _ old) name (fewer name watched)
  · rw [subscriber]
    intro eventNames member
    have old := (List.mem_append.mp member).resolve_left (cleans eventNames)
    exact covers.subscriber eventNames (List.mem_cons_of_mem _ old)
  · rw [accepted]
    intro name watched
    exact (covers.asked name (fewer name watched)).imp_right fun pending =>
      pending.pass (handed name watched)

/-- Names are inserted only while nobody else can subscribe. -/
theorem Covers.addCommonEventName {events : List PolicyEvent}
    (covers : s.Covers (.addCommonEventName events :: others))
    (free : ∀ other ∈ others, program.releases other ≠ some ()) :
    (s.addCommonEventName events).1.Covers ((s.addCommonEventName events).2 ++ others) := by
  have known : ∀ name ∈ (s.addCommonEventName events).1.commonEventNames,
      name ∈ s.commonEventNames ∨ Pending ((s.addCommonEventName events).2 ++ others) name := by
    intro name watched
    by_cases old : name ∈ s.commonEventNames
    · exact .inl old
    · rcases CommonEventCollect.mem_addCommonEventName.1.mp watched with before | listed
      · exact absurd before old
      · have inserted := CommonEventCollect.mem_addCommonEventName.2.mpr ⟨old, listed⟩
        have some : (CommonEventCollect.addCommonEventName s.commonEventNames events).2.isEmpty = false :=
          List.isEmpty_eq_false_iff.mpr (List.ne_nil_of_mem inserted)
        refine .inr ⟨.addSkillsEvent (.adding _), List.mem_append_left _ ?_, inserted⟩
        simp only [CommonEventSubscription.addCommonEventName, some, Bool.false_eq_true, if_false,
          List.mem_singleton]
  have kept : ∀ {name}, Pending (.addCommonEventName events :: others) name →
      Pending ((s.addCommonEventName events).2 ++ others) name := fun pending =>
    pending.pass fun inserted => nomatch inserted
  have plain : ∀ {holder : Piece}, holder ∈ (s.addCommonEventName events).2 ++ others →
      program.releases holder = some () → holder ∈ (s.addCommonEventName events).2 := by
    intro holder member releases
    rcases List.mem_append.mp member with new | old
    · exact new
    · exact absurd releases (free holder old)
  have only : ∀ holder ∈ (s.addCommonEventName events).2, ∃ names, holder = .addSkillsEvent (.adding names) := by
    intro holder member
    simp only [CommonEventSubscription.addCommonEventName] at member
    split at member
    · cases member
    · exact ⟨_, List.mem_singleton.mp member⟩
  constructor
  · intro record found name watched
    rcases known name watched with old | pending
    · exact (covers.served record found name old).imp_right kept
    · exact .inr pending
  · intro skill attempt member
    obtain ⟨names, same⟩ := only _ (plain member rfl)
    cases same
  · intro eventNames member
    obtain ⟨names, same⟩ := only _ (plain member rfl)
    cases same
  · intro name watched
    rcases known name watched with old | pending
    · refine (covers.asked name old).imp (fun accepted => List.mem_filter.mpr ⟨accepted, ?_⟩) kept
      exact decide_eq_true fun inserted => (CommonEventCollect.mem_addCommonEventName.2.mp inserted).1 old
    · exact .inr pending

/-- The answer of the service: the names of an accepted call are no longer its to take back, and those of
a refused one it takes back at once. -/
theorem Covers.subscribe {answer : Answer} {skill : Std.TreeSet String} {attempt : Attempt}
    (covers : s.Covers (.subscribe skill attempt :: others)) :
    (s.subscribe answer skill attempt).1.Covers ((s.subscribe answer skill attempt).2 ++ others) := by
  have holds : ∀ name ∈ s.commonEventNames, name ∈ skill := covers.skill skill attempt List.mem_cons_self
  have refused : ∀ t : CommonEventSubscription, t.commonEventNames = s.commonEventNames →
      t.accepted = s.accepted → t.commonEventSubscriber.isSome → (∀ record ∈ t.served, record ∈ s.served) →
      t.Covers (subscribe.failed attempt ++ others) := by
    intro t names accepted subscriber record
    have handed : ∀ {name}, Pending (.subscribe skill attempt :: others) name →
        Pending (subscribe.failed attempt ++ others) name := by
      refine fun pending => pending.pass fun inserted => ?_
      cases attempt with
      | adding insertNames => exact ⟨_, List.mem_singleton_self _, inserted⟩
      | ready => cases inserted
      | cleaned => cases inserted
    constructor
    · rw [names]
      exact fun served found name watched =>
        (covers.served served (record served found) name watched).imp_right handed
    · rw [names]
      intro asked other member
      refine covers.skill asked other (List.mem_cons_of_mem _ ((List.mem_append.mp member).resolve_left ?_))
      cases attempt <;> simp [subscribe.failed]
    · exact fun _ _ => subscriber
    · rw [names, accepted]
      exact fun name watched => (covers.asked name watched).imp_right handed
  cases answer with
  | accepted =>
      constructor
      · intro served found name watched
        cases found
        exact .inl (holds name watched)
      · exact fun asked other member => covers.skill asked other (List.mem_cons_of_mem _ member)
      · exact fun _ _ => rfl
      · intro name watched
        rcases covers.asked name watched with before | pending
        · exact .inl (List.mem_append_right _ before)
        · exact pending.cases.imp_left (List.mem_append_left _)
  | refused => exact refused _ rfl rfl rfl fun _ found => found
  | lost => exact refused _ rfl rfl rfl fun _ found => nomatch found

theorem Covers.cleanFailedEventLocked {eventNames : List String}
    (covers : s.Covers (.cleanFailedEventLocked eventNames :: others)) :
    (s.cleanFailedEventLocked eventNames).Covers ([.addSkillsEvent .cleaned] ++ others) := by
  have there := covers.subscriber eventNames List.mem_cons_self
  have left : s.cleanFailedEventLocked eventNames = { s with
      commonEventNames := eventNames.foldl (fun names name => names.erase name) s.commonEventNames } := by
    rw [CommonEventSubscription.cleanFailedEventLocked, Option.isNone_eq_false_iff.mpr there,
      if_neg Bool.false_ne_true]
  rw [left]
  refine covers.quiet rfl rfl rfl ?_ ?_ ?_ ?_
  · exact fun name watched => (CommonEventCollect.mem_eraseNames.mp watched).1
  · exact fun name watched inserted => absurd inserted (CommonEventCollect.mem_eraseNames.mp watched).2
  · exact fun skill attempt member => nomatch List.mem_singleton.mp member
  · exact fun names member => nomatch List.mem_singleton.mp member

theorem Covers.exec {answer : Answer} (covers : s.Covers (piece :: others))
    (free : program.needs s piece = some () →
      ∀ other ∈ others, program.releases other ≠ some ()) :
    (s.exec answer piece).1.Covers ((s.exec answer piece).2 ++ others) := by
  cases piece with
  | addCommonEventName events => exact covers.addCommonEventName (free rfl)
  | createCommonEventSubscriber =>
      refine covers.quiet rfl rfl rfl (fun _ watched => watched) (fun _ _ inserted => nomatch inserted) ?_ ?_
      · intro skill attempt member
        cases List.mem_singleton.mp member
        rfl
      · exact fun names member => nomatch List.mem_singleton.mp member
  | addSkillsEvent attempt =>
      refine covers.quiet rfl rfl rfl (fun _ watched => watched) ?_ ?_ ?_
      · intro name _ inserted
        cases attempt with
        | adding insertNames => exact ⟨_, List.mem_singleton_self _, inserted⟩
        | ready => cases inserted
        | cleaned => cases inserted
      · intro skill other member
        cases List.mem_singleton.mp member
        rfl
      · exact fun names member => nomatch List.mem_singleton.mp member
  | subscribe skill attempt => exact covers.subscribe
  | cleanFailedEventLocked eventNames => exact covers.cleanFailedEventLocked
  | removeUnusedEvent event =>
      refine covers.quiet rfl rfl rfl ?_ (fun _ _ inserted => nomatch inserted)
        (fun _ _ member => nomatch member) (fun _ member => nomatch member)
      exact fun name watched => Std.TreeSet.mem_of_mem_erase watched

theorem step_covers {x : Machine} {label : Threads.Label Call Answer Unit}
    (covers : x.shared.Covers x.inFlight) :
    (x.step program label).shared.Covers (x.step program label).inFlight := by
  refine Threads.Config.step_keeps Covers ?_ ?_ ?_ ?_ ?_ covers
  · exact fun same good => good.perm same
  · exact fun call pieces good => good.call call
  · intro answer piece others _ enabled opened good
    refine good.exec fun needs other member => ?_
    exact Threads.Config.free_of_enabled enabled needs other (opened.mem_iff.mpr (List.mem_cons_of_mem _ member))
  · exact fun _ _ _ taken => nomatch taken
  · intro _ _ good
    exact ⟨fun _ found => (nomatch found), good.skill, good.subscriber, good.asked⟩

theorem init_covers (saProfiles : List CollMgrSaProfile) :
    (init saProfiles).shared.Covers (init saProfiles).inFlight := by
  constructor
  · exact fun _ found => nomatch found
  · exact fun _ _ member => nomatch member
  · exact fun _ member => nomatch member
  · exact fun name watched => .inl (Std.TreeSet.mem_toList.mpr watched)

/-- Whatever the event service answers and however often it starts anew: while nobody is about to
subscribe, a subscription that it has on record delivers every watched name, and every watched name has
been there from the start or has last been inserted by a call that it has accepted. -/
theorem subscription_delivers_watched_names (saProfiles : List CollMgrSaProfile)
    (labels : List (Threads.Label Call Answer Unit)) :
    let x := Runs.run (Threads.Config.step program) (init saProfiles) labels
    x.held program () = false →
      (∀ served ∈ x.shared.served, ∀ name ∈ x.shared.commonEventNames, name ∈ served) ∧
        ∀ name ∈ x.shared.commonEventNames, name ∈ x.shared.accepted := by
  intro x free
  have covers : x.shared.Covers x.inFlight :=
    Runs.run_invariant (fun y : Machine => y.shared.Covers y.inFlight) (fun _ _ => step_covers)
      labels (init_covers saProfiles)
  have nobody : ∀ name, ¬ Pending x.inFlight name := by
    rintro name ⟨piece, member, inserted⟩
    have held : x.held program () = true := by
      refine Threads.Config.held_iff.mpr ⟨piece, member, ?_⟩
      cases piece with
      | addSkillsEvent attempt => rfl
      | subscribe skill attempt => rfl
      | cleanFailedEventLocked eventNames => rfl
      | _ => cases inserted
    rw [free] at held
    cases held
  constructor
  · exact fun served found name watched => (covers.served served found name watched).resolve_right (nobody name)
  · exact fun name watched => (covers.asked name watched).resolve_right (nobody name)

end CommonEventSubscription

end Samgr
