import Samgr.User.Subscribers

/-! The two subscriber tables of a user's manager under concurrent calls. A subscribe writes the
entry of its object first and the listener second, and takes the entry back if the listener is
refused; an unsubscribe takes the entry out first and the listener second. Calls on one object can
come between the two sections of each other. -/
namespace Samgr

/-- The manager and the remote objects that are dead: of these the weak pointers of the entries may
have expired. -/
structure SubscriberTables where
  manager : MultiSystemAbilityManager
  dead : List Nat := []

inductive SubscribePiece where
  | addSubscriberInfo (systemAbilityId : Int) (listener : RemoteInterface) (foregroundOnly : Bool)
      (callingPid : Int)
  | subscribeSystemAbilityInner (systemAbilityId : Int) (listener : RemoteInterface)
      (foregroundOnly : Bool) (callingPid : Int)
  | checkListener (systemAbilityId : Int) (listener : RemoteInterface)
  | checkListenerNotify (systemAbilityId : Int) (listener : RemoteInterface)
  -- after a refused listener
  | removeSubscriberInfo (systemAbilityId : Int) (listener : RemoteInterface) (foregroundOnly : Bool)
  -- the two sections of UnSubscribeSystemAbility
  | leaveSubscriberInfo (systemAbilityId : Int) (listener : RemoteInterface) (foregroundOnly : Bool)
  | unSubscribeSystemAbility (systemAbilityId : Int) (listener : RemoteInterface) (foregroundOnly : Bool)
  deriving DecidableEq, Repr

inductive SubscribeCall where
  | subscribeSystemAbility (systemAbilityId : Int) (listener : RemoteInterface) (foregroundOnly : Bool)
      (callingPid : Int)
  | unSubscribeSystemAbility (systemAbilityId : Int) (listener : RemoteInterface) (foregroundOnly : Bool)

/-- An object dies, or the manager runs a section of something else. -/
inductive SubscribeAction where
  | die (remoteObject : Nat)
  | other (env : Env) (piece : Piece)

/-- The pieces of the base manager by which listeners come and go. -/
def Piece.setsListeners : Piece → Bool
  | .subscribe _ _ _ | .unSubscribe _ _ | .unSubscribeDied _ => true
  | _ => false

theorem Manager.listens_exec {m : Manager} {env : Env} {piece : Piece} (quiet : piece.setsListeners = false)
    {sa : Int} {object : Nat} : (m.exec env piece).1.Listens sa object ↔ m.Listens sa object := by
  have move : ListenerMove m piece (m.exec env piece).1 := exec_listeners
  cases move with
  | same id agree entries counts deaths => exact listens_of_keys agree entries
  | added id listener callingPid source fresh room agree after counts deaths => cases source ▸ quiet
  | dropped id listener source agree after counts deaths => cases source ▸ quiet
  | swept remoteObject source after counts deaths => cases source ▸ quiet

namespace SubscriberTables

variable (s : SubscriberTables)

def enter : SubscribeCall → List SubscribePiece
  | .subscribeSystemAbility sa listener foregroundOnly callingPid =>
      [.addSubscriberInfo sa listener foregroundOnly callingPid]
  | .unSubscribeSystemAbility sa listener foregroundOnly =>
      if checkInputSysAbilityId sa then [.leaveSubscriberInfo sa listener foregroundOnly] else []

/-- The objects that cannot be promoted in this section. -/
def expired (candidates : List Nat) : List Nat := candidates.filter (· ∈ s.dead)

def exec (candidates : List Nat) : SubscribePiece → SubscriberTables × List SubscribePiece
  | .addSubscriberInfo sa listener foregroundOnly callingPid =>
      ({ s with manager := s.manager.addSubscriberInfo (s.expired candidates) sa listener foregroundOnly },
        [.subscribeSystemAbilityInner sa listener foregroundOnly callingPid])
  | .subscribeSystemAbilityInner sa listener foregroundOnly callingPid =>
      let subscribed := s.manager.subscribeSystemAbilityInner sa listener callingPid
      ({ s with manager := subscribed.1 },
        if subscribed.2.1 ≠ .errOk then [.removeSubscriberInfo sa listener foregroundOnly]
        else if subscribed.2.2 then [.checkListener sa listener]
        else [])
  | .checkListener sa listener =>
      (s, if s.manager.base.checkSystemAbility sa = none then [] else [.checkListenerNotify sa listener])
  | .checkListenerNotify sa listener =>
      ({ s with manager := { s.manager with base := s.manager.base.checkListenerNotify sa listener } }, [])
  | .removeSubscriberInfo sa listener foregroundOnly =>
      ({ s with
        manager := (s.manager.removeSubscriberInfo (s.expired candidates) sa listener foregroundOnly).1 },
        [])
  | .leaveSubscriberInfo sa listener foregroundOnly =>
      let removed := s.manager.removeSubscriberInfo (s.expired candidates) sa listener foregroundOnly
      ({ s with manager := removed.1 },
        if removed.2 then [.unSubscribeSystemAbility sa listener foregroundOnly] else [])
  | .unSubscribeSystemAbility sa listener _ =>
      ({ s with manager := { s.manager with base := s.manager.base.unSubscribeSystemAbility sa listener } },
        [])

def act : SubscribeAction → SubscriberTables
  | .die remoteObject => { s with dead := remoteObject :: s.dead }
  | .other env piece =>
      if piece.setsListeners then s
      else { s with manager := { s.manager with base := (s.manager.base.exec env piece).1 } }

end SubscriberTables

def tableProgram : Threads.Program SubscriberTables SubscribeCall SubscribePiece (List Nat)
    SubscribeAction Unit where
  enter _ call := SubscriberTables.enter call
  exec candidates s piece := s.exec candidates piece
  take _ := none
  act := SubscriberTables.act
  needs _ _ := none
  releases _ := none

namespace SubscribePiece

/-- The piece belongs to a subscribe of the kind that has written its entry: it enters the listener,
or takes the entry back. -/
def brings (sa : Int) (object : Nat) (kind : Bool) : SubscribePiece → Bool
  | .subscribeSystemAbilityInner id listener foregroundOnly _
  | .removeSubscriberInfo id listener foregroundOnly =>
      id == sa && listener.object == object && foregroundOnly == kind
  | _ => false

/-- The piece takes the listener of the object out. -/
def drops (sa : Int) (object : Nat) : SubscribePiece → Bool
  | .unSubscribeSystemAbility id listener _ => id == sa && listener.object == object
  | _ => false

/-- The piece is a section of an unsubscribe of the kind. -/
def leaves (sa : Int) (object : Nat) (kind : Bool) : SubscribePiece → Bool
  | .leaveSubscriberInfo id listener foregroundOnly
  | .unSubscribeSystemAbility id listener foregroundOnly =>
      id == sa && listener.object == object && foregroundOnly == kind
  | _ => false

end SubscribePiece

/-- A subscribe of the kind is on its way between its entry and its listener. -/
def Coming (pieces : List SubscribePiece) (sa : Int) (object : Nat) (kind : Bool) : Prop :=
  ∃ piece ∈ pieces, piece.brings sa object kind = true

/-- An unsubscribe is on its way between the entry and the listener. -/
def Leaving (pieces : List SubscribePiece) (sa : Int) (object : Nat) : Prop :=
  ∃ piece ∈ pieces, piece.drops sa object = true

instance (pieces : List SubscribePiece) (sa : Int) (object : Nat) (kind : Bool) :
    Decidable (Coming pieces sa object kind) :=
  inferInstanceAs (Decidable (∃ piece ∈ pieces, _))

instance (pieces : List SubscribePiece) (sa : Int) (object : Nat) : Decidable (Leaving pieces sa object) :=
  inferInstanceAs (Decidable (∃ piece ∈ pieces, _))

section Flight

variable {others : List SubscribePiece} {piece : SubscribePiece} {sa : Int} {object : Nat}

theorem Coming.more {kind : Bool} (coming : Coming others sa object kind) (made : List SubscribePiece) :
    Coming (made ++ others) sa object kind := by
  obtain ⟨piece, member, brings⟩ := coming
  exact ⟨piece, List.mem_append_right made member, brings⟩

theorem Leaving.more (leaving : Leaving others sa object) (made : List SubscribePiece) :
    Leaving (made ++ others) sa object := by
  obtain ⟨piece, member, drops⟩ := leaving
  exact ⟨piece, List.mem_append_right made member, drops⟩

/-- A piece that brings nothing may go. -/
theorem Coming.tail {kind : Bool} (coming : Coming (piece :: others) sa object kind)
    (plain : piece.brings sa object kind = false) : Coming others sa object kind := by
  obtain ⟨found, member, brings⟩ := coming
  rcases List.mem_cons.mp member with rfl | later
  · cases plain.symm.trans brings
  · exact ⟨found, later, brings⟩

theorem Leaving.tail (leaving : Leaving (piece :: others) sa object)
    (plain : piece.drops sa object = false) : Leaving others sa object := by
  obtain ⟨found, member, drops⟩ := leaving
  rcases List.mem_cons.mp member with rfl | later
  · cases plain.symm.trans drops
  · exact ⟨found, later, drops⟩

end Flight

namespace SubscriberTables

/-- A section that would set the two tables apart does not run: a listener is entered for an object
that still has an entry, the entry of a refused subscribe is not the last one of an object that has a
listener, and a listener is taken out when the entries its object has by now belong to subscribes that
have not come to their listener. -/
def Safe (s : SubscriberTables) (pieces : List SubscribePiece) : SubscribePiece → Prop
  | .subscribeSystemAbilityInner sa listener _ callingPid =>
      listener.object ∉ s.dead → ¬ s.manager.base.Listens sa listener.object →
        s.manager.base.subscribeResult sa listener callingPid = .errOk →
        (∃ kind, s.manager.Subscribes sa listener.object kind) ∨ Leaving pieces sa listener.object
  | .removeSubscriberInfo sa listener foregroundOnly =>
      listener.object ∉ s.dead → s.manager.base.Listens sa listener.object →
        s.manager.Subscribes sa listener.object (!foregroundOnly) ∨ Leaving pieces sa listener.object
  | .unSubscribeSystemAbility sa listener _ =>
      listener.object ∉ s.dead → ∀ kind, s.manager.Subscribes sa listener.object kind →
        Coming pieces sa listener.object kind
  | _ => True

instance (s : SubscriberTables) (pieces : List SubscribePiece) :
    (piece : SubscribePiece) → Decidable (s.Safe pieces piece)
  | .subscribeSystemAbilityInner _ _ _ _ => inferInstanceAs (Decidable (_ → _ → _ → _))
  | .removeSubscriberInfo _ _ _ => inferInstanceAs (Decidable (_ → _ → _))
  | .unSubscribeSystemAbility _ _ _ => inferInstanceAs (Decidable (_ → _))
  | .addSubscriberInfo _ _ _ _ | .checkListener _ _ | .checkListenerNotify _ _
  | .leaveSubscriberInfo _ _ _ => isTrue trivial

/-- A listener stands for an entry or is about to go, and an entry stands for a listener or its
subscribe is still on its way. -/
structure InStep (s : SubscriberTables) (pieces : List SubscribePiece) (sa : Int) (object : Nat) : Prop where
  heard : s.manager.base.Listens sa object →
    (∃ kind, s.manager.Subscribes sa object kind) ∨ Leaving pieces sa object
  entered : ∀ kind, s.manager.Subscribes sa object kind →
    s.manager.base.Listens sa object ∨ Coming pieces sa object kind

variable {s t : SubscriberTables} {pieces others : List SubscribePiece} {piece : SubscribePiece} {sa : Int}
  {object : Nat} {candidates : List Nat}

theorem not_mem_expired (live : object ∉ s.dead) : object ∉ s.expired candidates := by
  simp [expired, live]

theorem InStep.frame (good : s.InStep pieces sa object)
    (listens : t.manager.base.Listens sa object ↔ s.manager.base.Listens sa object)
    (subscribes : ∀ kind, t.manager.Subscribes sa object kind ↔ s.manager.Subscribes sa object kind)
    (coming : ∀ kind, Coming pieces sa object kind → Coming others sa object kind)
    (leaving : Leaving pieces sa object → Leaving others sa object) : t.InStep others sa object := by
  constructor
  · intro heard
    rcases good.heard (listens.mp heard) with ⟨kind, entry⟩ | going
    · exact Or.inl ⟨kind, (subscribes kind).mpr entry⟩
    · exact Or.inr (leaving going)
  · intro kind entry
    exact (good.entered kind ((subscribes kind).mp entry)).imp listens.mpr (coming kind)

/-- A piece about another object, or about another ability, leaves the pair as it is. -/
theorem InStep.away (good : s.InStep (piece :: others) sa object)
    (listens : t.manager.base.Listens sa object ↔ s.manager.base.Listens sa object)
    (subscribes : ∀ kind, t.manager.Subscribes sa object kind ↔ s.manager.Subscribes sa object kind)
    (brings : ∀ kind, piece.brings sa object kind = false) (drops : piece.drops sa object = false)
    (made : List SubscribePiece) : t.InStep (made ++ others) sa object := by
  refine good.frame listens subscribes ?_ ?_
  · intro kind coming
    exact (coming.tail (brings kind)).more made
  · intro leaving
    exact (leaving.tail drops).more made

section Turns

variable {id : Int} {listener : RemoteInterface} {foregroundOnly : Bool} {callingPid : Int}

open MultiSystemAbilityManager

theorem pair_beq_false (away : ¬ (sa = id ∧ object = listener.object)) :
    (id == sa && listener.object == object) = false := by
  refine Bool.eq_false_iff.mpr fun same => away ?_
  rw [Bool.and_eq_true, beq_iff_eq, beq_iff_eq] at same
  exact ⟨same.1.symm, same.2.symm⟩

theorem InStep.add (live : object ∉ s.dead)
    (good : s.InStep (.addSubscriberInfo id listener foregroundOnly callingPid :: others) sa object) :
    InStep { s with manager := s.manager.addSubscriberInfo (s.expired candidates) id listener foregroundOnly }
      ([.subscribeSystemAbilityInner id listener foregroundOnly callingPid] ++ others) sa object := by
  have fresh : object ∉ s.expired candidates := not_mem_expired live
  constructor
  · intro heard
    rcases good.heard heard with ⟨kind, entry⟩ | going
    · exact Or.inl ⟨kind, (subscribes_add fresh).mpr (Or.inr entry)⟩
    · exact Or.inr ((going.tail rfl).more _)
  · intro kind entry
    rcases (subscribes_add fresh).mp entry with ⟨⟨rfl, rfl⟩, rfl⟩ | old
    · refine Or.inr ⟨_, List.mem_cons_self, ?_⟩
      simp [SubscribePiece.brings]
    · exact (good.entered kind old).imp_right fun coming => (coming.tail rfl).more _

theorem InStep.subscribe (live : object ∉ s.dead)
    (safe : s.Safe (.subscribeSystemAbilityInner id listener foregroundOnly callingPid :: others)
      (.subscribeSystemAbilityInner id listener foregroundOnly callingPid))
    (good : s.InStep (.subscribeSystemAbilityInner id listener foregroundOnly callingPid :: others) sa object)
    {made : List SubscribePiece}
    (takesBack : s.manager.base.subscribeResult id listener callingPid ≠ .errOk →
      .removeSubscriberInfo id listener foregroundOnly ∈ made) :
    InStep { s with manager := (s.manager.subscribeSystemAbilityInner id listener callingPid).1 }
      (made ++ others) sa object := by
  by_cases own : sa = id ∧ object = listener.object
  · obtain ⟨rfl, rfl⟩ := own
    constructor
    · intro heard
      have before : (∃ kind, s.manager.Subscribes sa listener.object kind) ∨
          Leaving (.subscribeSystemAbilityInner sa listener foregroundOnly callingPid :: others) sa
            listener.object := by
        by_cases known : s.manager.base.Listens sa listener.object
        · exact good.heard known
        · rcases listens_subscribeInner.mp heard with old | new
          · exact absurd old known
          · exact safe live known new.2
      rcases before with ⟨kind, entry⟩ | going
      · exact Or.inl ⟨kind, subscribes_subscribeInner.mpr entry⟩
      · exact Or.inr ((going.tail rfl).more made)
    · intro kind entry
      by_cases accepted : s.manager.base.subscribeResult sa listener callingPid = .errOk
      · exact Or.inl (listens_subscribeInner.mpr (Or.inr ⟨⟨rfl, rfl⟩, accepted⟩))
      · -- the piece that takes the entry back comes in the place of the refused one
        rcases good.entered kind (subscribes_subscribeInner.mp entry) with heard | coming
        · exact Or.inl (listens_subscribeInner.mpr (Or.inl heard))
        · right
          by_cases same : foregroundOnly = kind
          · refine ⟨_, List.mem_append_left others (takesBack accepted), ?_⟩
            simp [SubscribePiece.brings, same]
          · exact (coming.tail (by simp [SubscribePiece.brings, same])).more made
  · refine good.away ?_ (fun kind => subscribes_subscribeInner) ?_ rfl made
    · exact listens_subscribeInner.trans (or_iff_left fun new => own new.1)
    · intro kind
      simp only [SubscribePiece.brings, pair_beq_false own, Bool.false_and]

theorem InStep.takeBack (sound : s.manager.Sound) (live : object ∉ s.dead)
    (safe : s.Safe (.removeSubscriberInfo id listener foregroundOnly :: others)
      (.removeSubscriberInfo id listener foregroundOnly))
    (good : s.InStep (.removeSubscriberInfo id listener foregroundOnly :: others) sa object) :
    InStep { s with manager :=
        (s.manager.removeSubscriberInfo (s.expired candidates) id listener foregroundOnly).1 }
      ([] ++ others) sa object := by
  have fresh : object ∉ s.expired candidates := not_mem_expired live
  by_cases own : sa = id ∧ object = listener.object
  · obtain ⟨rfl, rfl⟩ := own
    constructor
    · intro heard
      rcases safe live heard with other | going
      · refine Or.inl ⟨!foregroundOnly, (subscribes_remove sound fresh).mpr ⟨other, ?_⟩⟩
        simp
      · exact Or.inr (going.tail rfl)
    · intro kind entry
      obtain ⟨old, other⟩ := (subscribes_remove sound fresh).mp entry
      have apart : foregroundOnly ≠ kind := fun same => other ⟨⟨rfl, rfl⟩, same.symm⟩
      exact (good.entered kind old).imp_right fun coming =>
        coming.tail (by simp [SubscribePiece.brings, apart])
  · apply good.away
    · exact Iff.rfl
    · intro kind
      exact (subscribes_remove sound fresh).trans (and_iff_left fun new => own new.1)
    · intro kind
      simp only [SubscribePiece.brings, pair_beq_false own, Bool.false_and]
    · rfl

theorem InStep.leave (sound : s.manager.Sound) (live : object ∉ s.dead)
    (good : s.InStep (.leaveSubscriberInfo id listener foregroundOnly :: others) sa object)
    {made : List SubscribePiece}
    (goes : (s.manager.removeSubscriberInfo (s.expired candidates) id listener foregroundOnly).2 = true →
      .unSubscribeSystemAbility id listener foregroundOnly ∈ made) :
    InStep { s with manager :=
        (s.manager.removeSubscriberInfo (s.expired candidates) id listener foregroundOnly).1 }
      (made ++ others) sa object := by
  have fresh : object ∉ s.expired candidates := not_mem_expired live
  constructor
  · intro heard
    by_cases own : sa = id ∧ object = listener.object
    · obtain ⟨rfl, rfl⟩ := own
      by_cases last :
          (s.manager.removeSubscriberInfo (s.expired candidates) sa listener foregroundOnly).2 = true
      · refine Or.inr ⟨_, List.mem_append_left others (goes last), ?_⟩
        simp [SubscribePiece.drops]
      · rw [removeSubscriberInfo_eq_true sound] at last
        push Not at last
        exact Or.inl last
    · rcases good.heard heard with ⟨kind, entry⟩ | going
      · exact Or.inl ⟨kind, (subscribes_remove sound fresh).mpr ⟨entry, fun new => own new.1⟩⟩
      · exact Or.inr ((going.tail rfl).more made)
  · intro kind entry
    obtain ⟨old, -⟩ := (subscribes_remove sound fresh).mp entry
    exact (good.entered kind old).imp_right fun coming => (coming.tail rfl).more made

theorem InStep.drop (sound : s.manager.Sound) (live : object ∉ s.dead)
    (safe : s.Safe (.unSubscribeSystemAbility id listener foregroundOnly :: others)
      (.unSubscribeSystemAbility id listener foregroundOnly))
    (good : s.InStep (.unSubscribeSystemAbility id listener foregroundOnly :: others) sa object) :
    InStep { s with manager :=
        { s.manager with base := s.manager.base.unSubscribeSystemAbility id listener } }
      ([] ++ others) sa object := by
  by_cases own : sa = id ∧ object = listener.object
  · constructor
    · intro heard
      exact absurd own ((Manager.listens_unSubscribe sound.base).mp heard).2
    · obtain ⟨rfl, rfl⟩ := own
      intro kind entry
      exact Or.inr ((safe live kind entry).tail rfl)
  · apply good.away
    · exact (Manager.listens_unSubscribe sound.base).trans (and_iff_left own)
    · exact fun kind => Iff.rfl
    · exact fun kind => rfl
    · exact pair_beq_false own

theorem InStep.turn (sound : s.manager.Sound) (live : object ∉ s.dead)
    (safe : s.Safe (piece :: others) piece) (good : s.InStep (piece :: others) sa object) :
    (s.exec candidates piece).1.InStep ((s.exec candidates piece).2 ++ others) sa object := by
  cases piece with
  | addSubscriberInfo id listener foregroundOnly callingPid => exact good.add live
  | subscribeSystemAbilityInner id listener foregroundOnly callingPid =>
      apply good.subscribe live safe
      intro refused
      simp [exec, refused]
  | checkListener id listener => exact good.away Iff.rfl (fun _ => Iff.rfl) (fun _ => rfl) rfl _
  | checkListenerNotify id listener =>
      apply good.away
      · have same : (s.manager.base.exec {} (.checkListenerNotify id listener)).1.Listens sa object ↔
            s.manager.base.Listens sa object := Manager.listens_exec rfl
        exact same
      · exact fun kind => Iff.rfl
      · exact fun kind => rfl
      · rfl
  | removeSubscriberInfo id listener foregroundOnly => exact good.takeBack sound live safe
  | leaveSubscriberInfo id listener foregroundOnly =>
      apply good.leave sound live
      intro last
      simp [exec, last]
  | unSubscribeSystemAbility id listener foregroundOnly => exact good.drop sound live safe

theorem sound_turn (sound : s.manager.Sound) : (s.exec candidates piece).1.manager.Sound := by
  have base : ∀ piece, (s.manager.base.exec {} piece).1.Subscribed :=
    fun _ => Manager.exec_subscribed sound.base
  cases piece with
  | addSubscriberInfo id listener foregroundOnly callingPid => exact sound.add
  | subscribeSystemAbilityInner id listener foregroundOnly callingPid => exact sound.subscribe
  | checkListener id listener => exact sound
  | checkListenerNotify id listener => exact ⟨base (.checkListenerNotify id listener), sound.infos⟩
  | removeSubscriberInfo id listener foregroundOnly => exact sound.remove
  | leaveSubscriberInfo id listener foregroundOnly => exact sound.remove
  | unSubscribeSystemAbility id listener foregroundOnly =>
      exact ⟨base (.unSubscribe id listener), sound.infos⟩

end Turns

/-- What a run of safe sections keeps. -/
structure Good (s : SubscriberTables) (pieces : List SubscribePiece) : Prop where
  sound : s.manager.Sound
  inStep : ∀ sa object, object ∉ s.dead → s.InStep pieces sa object

theorem Good.perm (good : s.Good pieces) (same : pieces.Perm others) : s.Good others := by
  refine ⟨good.sound, fun sa object live => ?_⟩
  apply (good.inStep sa object live).frame Iff.rfl (fun _ => Iff.rfl)
  · rintro kind ⟨piece, member, brings⟩
    exact ⟨piece, same.mem_iff.mp member, brings⟩
  · rintro ⟨piece, member, drops⟩
    exact ⟨piece, same.mem_iff.mp member, drops⟩

theorem Good.more (good : s.Good pieces) (made : List SubscribePiece) : s.Good (made ++ pieces) := by
  refine ⟨good.sound, fun sa object live => ?_⟩
  apply (good.inStep sa object live).frame Iff.rfl (fun _ => Iff.rfl)
  · exact fun kind coming => coming.more made
  · exact fun leaving => leaving.more made

theorem Good.act (good : s.Good pieces) (action : SubscribeAction) : (s.act action).Good pieces := by
  cases action with
  | die remoteObject =>
      refine ⟨good.sound, fun sa object live => ?_⟩
      have before := good.inStep sa object (List.not_mem_of_not_mem_cons live)
      exact ⟨before.heard, before.entered⟩
  | other env piece =>
      simp only [SubscriberTables.act]
      split
      · exact good
      · rename_i sets
        refine ⟨⟨Manager.exec_subscribed good.sound.base, good.sound.infos⟩, fun sa object live => ?_⟩
        apply (good.inStep sa object live).frame
        · exact Manager.listens_exec (by simpa using sets)
        · exact fun _ => Iff.rfl
        · exact fun _ coming => coming
        · exact fun leaving => leaving

end SubscriberTables

abbrev TableMachine : Type := Threads.Config SubscriberTables SubscribePiece

abbrev TableLabel : Type := Threads.Label SubscribeCall (List Nat) SubscribeAction

namespace TableMachine

open Threads.Config SubscriberTables

def init (saProfiles : List SaProfile) : TableMachine :=
  { shared := { manager := { base := Manager.init saProfiles } } }

def step (x : TableMachine) (label : TableLabel) : TableMachine := Threads.Config.step tableProgram x label

def next (x : TableMachine) (label : TableLabel) : Option SubscribePiece :=
  Threads.Config.next tableProgram x label

/-- The section that the label runs is safe. -/
def SafeStep (x : TableMachine) (label : TableLabel) : Prop :=
  ∀ piece ∈ x.next label, x.shared.Safe x.inFlight piece

instance (x : TableMachine) (label : TableLabel) : Decidable (x.SafeStep label) :=
  inferInstanceAs (Decidable (∀ piece ∈ x.next label, _))

variable {x : TableMachine} {label : TableLabel} {sa : Int} {object : Nat}

theorem safe_perm {s : SubscriberTables} {pieces others : List SubscribePiece} (same : pieces.Perm others)
    {piece : SubscribePiece} (safe : s.Safe pieces piece) : s.Safe others piece := by
  have coming : ∀ {sa object kind}, Coming pieces sa object kind → Coming others sa object kind := by
    rintro sa object kind ⟨found, member, brings⟩
    exact ⟨found, same.mem_iff.mp member, brings⟩
  have leaving : ∀ {sa object}, Leaving pieces sa object → Leaving others sa object := by
    rintro sa object ⟨found, member, drops⟩
    exact ⟨found, same.mem_iff.mp member, drops⟩
  cases piece with
  | subscribeSystemAbilityInner id listener foregroundOnly callingPid =>
      exact fun live unknown accepted => (safe live unknown accepted).imp_right leaving
  | removeSubscriberInfo id listener foregroundOnly =>
      exact fun live heard => (safe live heard).imp_right leaving
  | unSubscribeSystemAbility id listener foregroundOnly =>
      exact fun live kind entry => coming (safe live kind entry)
  | _ => trivial

theorem good_step (safe : x.SafeStep label) (good : x.shared.Good x.inFlight) :
    (x.step label).shared.Good (x.step label).inFlight := by
  apply step_keeps_input (P := tableProgram) Good
  · exact fun same before => before.perm same
  · exact fun call pieces before => before.more _
  · intro client candidates piece others _ next opened before
    have own : x.shared.Safe (piece :: others) piece := safe_perm opened (safe piece next)
    refine ⟨sound_turn before.sound, fun sa object live => ?_⟩
    have alive : object ∉ x.shared.dead := by
      cases piece <;> exact live
    exact (before.inStep sa object alive).turn before.sound alive own
  · intro pieces shared l taken
    cases taken
  · exact fun action _ before => before.act action
  · exact good

theorem good_init (saProfiles : List SaProfile) :
    (init saProfiles).shared.Good (init saProfiles).inFlight := by
  refine ⟨⟨Manager.subscribed_init saProfiles, fun sa => List.nodup_nil⟩, fun sa object _ => ⟨?_, ?_⟩⟩
  · rintro ⟨item, member, -⟩
    simp [init, Manager.init, Manager.listeners] at member
  · rintro kind ⟨info, member, -⟩
    cases member

theorem good_run (saProfiles : List SaProfile) {labels : List TableLabel}
    (safe : Runs.Guarded step SafeStep (init saProfiles) labels) :
    (Runs.run step (init saProfiles) labels).shared.Good (Runs.run step (init saProfiles) labels).inFlight :=
  Runs.guarded_invariant (fun x : TableMachine => x.shared.Good x.inFlight)
    (fun _ _ safe good => good_step safe good) safe (good_init saProfiles)

/-- No call about the pair is between its sections. -/
def Idle (x : TableMachine) (sa : Int) (object : Nat) : Prop :=
  (∀ kind, ¬ Coming x.inFlight sa object kind) ∧ ¬ Leaving x.inFlight sa object

/-- A subscription that is in place in both tables, and no subscribe of its kind on the way. -/
def InPlace (x : TableMachine) (sa : Int) (object : Nat) (kind : Bool) : Prop :=
  x.shared.manager.Subscribes sa object kind ∧ x.shared.manager.base.Listens sa object ∧
    ¬ Coming x.inFlight sa object kind

theorem entry_iff {m : MultiSystemAbilityManager} : (∃ info ∈ m.subscriberInfoMap sa, info.remoteObject = object ∧
    (info.hasDirectSubscription || info.hasForegroundSubscription) = true) ↔
      ∃ kind, m.Subscribes sa object kind := by
  constructor
  · rintro ⟨info, member, own, flags⟩
    obtain ⟨kind, flag⟩ := SubscriberInfo.any_flag.mp flags
    exact ⟨kind, info, member, own, flag⟩
  · rintro ⟨kind, info, member, own, flag⟩
    exact ⟨info, member, own, SubscriberInfo.any_flag.mpr ⟨kind, flag⟩⟩

theorem agree_of_idle (good : x.shared.Good x.inFlight) (live : object ∉ x.shared.dead)
    (idle : x.Idle sa object) : x.shared.manager.base.Listens sa object ↔
      ∃ kind, x.shared.manager.Subscribes sa object kind := by
  have inStep := good.inStep sa object live
  constructor
  · intro heard
    exact (inStep.heard heard).resolve_right idle.2
  · rintro ⟨kind, entry⟩
    exact (inStep.entered kind entry).resolve_right (idle.1 kind)

theorem inPlace_step (good : x.shared.Good x.inFlight) (live : object ∉ x.shared.dead)
    (safe : x.SafeStep label) {piece : SubscribePiece} (next : x.next label = some piece) {kind : Bool}
    (leaves : piece.leaves sa object kind = true) (stands : x.InPlace sa object (!kind)) :
    (x.step label).shared.manager.Subscribes sa object (!kind) ∧
      (x.step label).shared.manager.base.Listens sa object := by
  obtain ⟨candidates, others, -, after⟩ := step_of_next next
  have after : (x.step label).shared = (x.shared.exec candidates piece).1 := after
  rw [after]
  cases piece with
  | leaveSubscriberInfo id listener foregroundOnly =>
      simp only [SubscribePiece.leaves, Bool.and_eq_true, beq_iff_eq] at leaves
      obtain ⟨⟨rfl, rfl⟩, rfl⟩ := leaves
      refine ⟨?_, stands.2.1⟩
      apply (MultiSystemAbilityManager.subscribes_remove good.sound (not_mem_expired live)).mpr
      exact ⟨stands.1, by simp⟩
  | unSubscribeSystemAbility id listener foregroundOnly =>
      -- the listener would go while the other kind relies on it
      simp only [SubscribePiece.leaves, Bool.and_eq_true, beq_iff_eq] at leaves
      obtain ⟨⟨rfl, rfl⟩, rfl⟩ := leaves
      exact absurd (safe _ next live _ stands.1) stands.2.2
  | _ => cases leaves

/-- In every run of safe sections the two tables agree on an object that is alive whenever no call is
between its sections, and an unsubscribe leaves a subscription of the other kind in both. -/
theorem tables_stay_in_step (saProfiles : List SaProfile) (labels : List TableLabel) :
    Runs.Guarded step SafeStep (init saProfiles) labels →
    let x := Runs.run step (init saProfiles) labels
    ∀ sa object, object ∉ x.shared.dead →
      (x.Idle sa object → (x.shared.manager.base.Listens sa object ↔
        ∃ info ∈ x.shared.manager.subscriberInfoMap sa, info.remoteObject = object ∧
          (info.hasDirectSubscription || info.hasForegroundSubscription) = true)) ∧
      ∀ label piece kind, x.SafeStep label → x.next label = some piece →
        piece.leaves sa object kind = true → x.InPlace sa object (!kind) →
          (x.step label).shared.manager.Subscribes sa object (!kind) ∧
            (x.step label).shared.manager.base.Listens sa object := by
  intro safe x sa object live
  have good : x.shared.Good x.inFlight := good_run saProfiles safe
  constructor
  · intro idle
    exact (agree_of_idle good live idle).trans entry_iff.symm
  · intro label piece kind safe next leaves stands
    exact inPlace_step good live safe next leaves stands

/-- Both kinds are subscribed, and the direct one goes. -/
def leaveDirect : List TableLabel :=
  [.call (.subscribeSystemAbility 1 ⟨70, 70⟩ false 7), .run (some 0) [], .run (some 0) [], .run (some 0) [],
    .call (.subscribeSystemAbility 1 ⟨70, 70⟩ true 7), .run (some 1) [], .run (some 1) [],
    .call (.unSubscribeSystemAbility 1 ⟨70, 70⟩ false), .run (some 2) []]

theorem leaveDirect_agrees :
    (Runs.run step (init []) leaveDirect).shared.manager.base.Listens 1 70 := by
  have agree := (tables_stay_in_step [] leaveDirect (by decide +kernel) 1 70 (by decide +kernel)).1
    ⟨by decide +kernel, by decide +kernel⟩
  exact agree.mpr (by decide +kernel)

/-- The foreground subscription comes between the two sections of the direct unsubscribe. -/
def crossing : List TableLabel :=
  [.call (.subscribeSystemAbility 1 ⟨70, 70⟩ false 7), .run (some 0) [], .run (some 0) [], .run (some 0) [],
    .call (.unSubscribeSystemAbility 1 ⟨70, 70⟩ false), .run (some 1) [],
    .call (.subscribeSystemAbility 1 ⟨70, 70⟩ true 7), .run (some 2) [], .run (some 2) [],
    .run (some 1) []]

theorem crossing_sets_tables_apart :
    ¬ ∀ (saProfiles : List SaProfile) (labels : List TableLabel),
      let x := Runs.run step (init saProfiles) labels
      x.inFlight = [] → ∀ sa object, object ∉ x.shared.dead →
        (x.shared.manager.base.Listens sa object ↔
          ∃ info ∈ x.shared.manager.subscriberInfoMap sa, info.remoteObject = object ∧
            (info.hasDirectSubscription || info.hasForegroundSubscription) = true) := by
  intro always
  have agree := always [] crossing (by decide +kernel) 1 70 (by decide +kernel)
  have heard := agree.mpr (by decide +kernel)
  revert heard
  decide +kernel

end TableMachine

end Samgr
