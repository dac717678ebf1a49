import Samgr.Manager.Simulation

/-! Who works for an ability, and in which order. The loads, check-and-starts and stops of an
ability run under the lock of its own process, so the events of the ability wait for them; and
the last pieces of a registration and of a timeout are still ahead while the first are. -/
namespace Samgr

/-- If the piece works for the ability, it does so under the lock of the process `own`. -/
def Piece.AtHome (saList : String → List Int) (sa : Int) (own : String) : Piece → Prop
  | .lockForCheckStart processName id | .checkOnDemand processName id
  | .doLoadOnDemandAbility processName id | .finishCheckStart processName id _ _
  | .stopAbility processName id => id = sa → processName = own
  | .getAbnormallyDied processName => sa ∈ saList processName → processName = own
  | .restartDied processName died => sa ∈ died → processName = own
  | piece => ∀ load, piece.loading = some load → load.systemAbilityId = sa → load.held = own

namespace Machine

open Threads.Config

/-- A process that lists the ability stops only if it is the ability's own. With distinct ids
there is no other. -/
def stopsAtHome (sa : Int) (x : Machine) (label : MachineLabel) : Bool :=
  match x.next label with
  | some (.lockForStop processName) =>
      !(x.shared.sched.process processName).saList.contains sa ||
        x.shared.sched.ownProcessName sa == processName
  | _ => true

/-- All that works for the ability does so under the lock of its own process. -/
def Housed (first : Scheduler) (sa : Int) (pieces : List Piece) : Prop :=
  ∀ piece ∈ pieces, piece.AtHome first.chart.saList sa (first.ownProcessName sa)

variable {first : Scheduler} {sa : Int} {x : Machine} {label : MachineLabel} {piece : Piece}

theorem atHome_of_follows {m : Manager} {made : Piece} {saList : String → List Int} {own : String}
    (lists : m.sched.chart.saList = saList) (owner : m.sched.ownProcessName sa = own)
    (stops : ∀ processName, piece = .lockForStop processName → sa ∈ saList processName →
      processName = own)
    (home : piece.AtHome saList sa own) (follows : made.Follows m piece) :
    made.AtHome saList sa own := by
  subst lists
  cases piece with
  | lockForStop processName =>
      rcases follows with rfl | rfl | rfl | rfl
      · exact fun _ impossible => by cases impossible
      · exact stops processName rfl
      · exact fun _ impossible => by cases impossible
      · exact fun _ impossible => by cases impossible
  | getAbnormallyDied processName =>
      rcases follows with ⟨id, inside, rfl⟩ | ⟨died, known, rfl⟩
      · rintro rfl
        exact home inside
      · exact fun inside => home (known sa inside).1
  | stopAbility processName id =>
      obtain ⟨-, ⟨load, held, rfl, -, rfl⟩ | rfl⟩ := follows
      · rintro other same own
        obtain rfl : load = other := Option.some.inj same
        rw [held]
        exact home own
      · exact fun _ impossible => by cases impossible
  | restartDied processName died =>
      obtain ⟨id, inside, rfl | ⟨load, held, rfl, -, rfl⟩⟩ := follows
      · exact fun _ impossible => by cases impossible
      · rintro other same own
        obtain rfl : load = other := Option.some.inj same
        rw [held]
        exact home (own ▸ inside)
  | checkSystemAbility id =>
      obtain rfl := follows
      rintro rfl
      exact owner
  | lockForCheckStart processName id =>
      obtain ⟨-, rfl | rfl⟩ := follows
      · exact home
      · exact fun _ impossible => by cases impossible
  | checkOnDemand processName id => rcases follows with rfl | rfl <;> exact home
  | doLoadOnDemandAbility processName id =>
      obtain ⟨result, isExist, rfl⟩ := follows
      exact home
  | _ => grind [Piece.Follows, Loading.EndsWith, Piece.AtHome, Piece.loading]

theorem step_housed (sound : Sound first x.shared x.inFlight) (stops : x.stopsAtHome sa label = true)
    (good : Housed first sa x.inFlight) : Housed first sa (x.step label).inFlight := by
  have lists : x.shared.sched.chart.saList = first.chart.saList := sound.layout.saList
  have owner : x.shared.sched.ownProcessName sa = first.ownProcessName sa :=
    congrFun sound.layout.own sa
  refine step_keeps (fun _ pieces => Housed first sa pieces) ?_ ?_ ?_ ?_ ?_ good
  · exact fun same housed piece member => housed piece (same.mem_iff.mpr member)
  · intro call pieces housed piece member
    rcases List.mem_append.mp member with member | member
    · have begins : piece.Begins x.shared call := enter_begins member
      cases call <;> grind [Piece.Begins, Piece.AtHome, Piece.loading]
    · exact housed piece member
  · intro env piece others next _ _ housed made member
    rcases List.mem_append.mp member with member | member
    · refine atHome_of_follows lists owner ?_ (housed piece List.mem_cons_self) (exec_follows member)
      rintro processName rfl inside
      have inside : sa ∈ (x.shared.sched.process processName).saList := by
        have same : (x.shared.sched.process processName).saList = first.chart.saList processName :=
          congrFun lists processName
        rw [same]
        exact inside
      simp only [stopsAtHome, next, owner] at stops
      have same : first.ownProcessName sa = processName := by simpa [inside] using stops
      exact same.symm
    · exact housed made (List.mem_cons_of_mem piece member)
  · intro task rest pieces _ housed piece member
    rcases List.mem_append.mp member with member | member
    · cases task <;> grind [WorkTask.pieces, Piece.AtHome, Piece.loading]
    · exact housed piece member
  · exact fun _ housed => housed

/-- While an event of the ability can be delivered, nothing works for it under its lock. -/
theorem Housed.excludes {event : AbilityStateEvent} (sound : Sound first x.shared x.inFlight)
    (housed : Housed first sa x.inFlight) (locked : x.Locked (first.ownProcessName sa))
    (known : sa ∈ first.abilityIds)
    (enabled : x.enabled managerProgram (.sendAbilityStateEvent sa event) = true) {load : Loading}
    (own : load.systemAbilityId = sa) {other : Piece} (member : other ∈ x.inFlight)
    (loading : other.loading = some load) : other = .lockForLoad load := by
  have ids : x.shared.sched.abilityIds = first.abilityIds := sound.layout.ids
  have owner : x.shared.sched.ownProcessName sa = first.ownProcessName sa :=
    congrFun sound.layout.own sa
  have needs : x.shared.needs (.sendAbilityStateEvent sa event) =
      some (.process (first.ownProcessName sa)) := by
    simp [Manager.needs, ids, known, owner]
  have free : other.lockedBy ≠ some (first.ownProcessName sa) := locked.excludes enabled needs member
  have home := housed other member
  cases other <;> grind [Piece.AtHome, Piece.loading, Piece.lockedBy]

/-- A bracket that no call and no task opens, and that a piece opens only in pieces that close
it again, is closed in every thread. -/
theorem step_linked {opens closes : Piece → Prop} (good : Bracketed opens closes x)
    (calls : ∀ call, ∀ piece ∈ x.shared.enter call, ¬ opens piece)
    (tasks : ∀ task : WorkTask, ∀ piece ∈ task.pieces, ¬ opens piece)
    (made : ∀ env piece, Followed opens closes (x.shared.exec env piece).2) :
    Bracketed opens closes (x.step label) := by
  refine step_bracketed (P := managerProgram) good ?_ ?_ ?_
  · exact fun call => followed_of_plain (calls call)
  · exact fun env piece _ => Or.inl (made env piece)
  · intro pieces shared taken
    obtain ⟨⟨task, rest⟩, -, same⟩ := Option.map_eq_some_iff.mp taken
    simp only [Prod.mk.injEq] at same
    obtain ⟨rfl, -⟩ := same
    exact followed_of_plain (tasks task)

/-- A registration that has still to cancel timeouts or to deliver its load success has its
added message still to post. -/
def Announcing (sa : Int) (x : Machine) : Prop :=
  Bracketed (fun piece => piece = .removeCheckLoadedMsg sa ∨
      piece = .sendAbilityStateEvent sa .abilityLoadSuccessEvent)
    (fun piece => ∃ remoteObject, piece = .sendSystemAbilityAddedMsg sa remoteObject) x

/-- A registration that has still to cancel timeouts has its load success still to deliver. -/
def Delivering (sa : Int) (x : Machine) : Prop :=
  Bracketed (fun piece => piece = .removeCheckLoadedMsg sa)
    (fun piece => piece = .sendAbilityStateEvent sa .abilityLoadSuccessEvent) x

/-- A timeout that has still to clean up has its load failure still to deliver. -/
def Failing (sa : Int) (x : Machine) : Prop :=
  Bracketed (fun piece => ∃ srcDeviceId callback, piece = .cleanCallback sa srcDeviceId callback)
    (fun piece => piece = .sendAbilityStateEvent sa .abilityLoadFailedEvent) x

/-- Only a registration makes the pieces of one. -/
theorem insert_of_made {env : Env} {m : Manager} {made : Piece} {id : Int}
    (member : made ∈ (m.exec env piece).2)
    (first : made = .removeCheckLoadedMsg id ∨
      made = .sendAbilityStateEvent id .abilityLoadSuccessEvent) :
    ∃ saInfo, piece = .insertAbility id saInfo := by
  have follows := exec_follows member
  cases piece <;> simp only [Piece.Follows, Loading.EndsWith] at follows <;> grind

theorem timeout_of_made {env : Env} {m : Manager} {id : Int} {srcDeviceId : String}
    {callback : RemoteInterface} (member : .cleanCallback id srcDeviceId callback ∈ (m.exec env piece).2) :
    ∃ name, piece = .checkLoaded id name srcDeviceId callback := by
  have follows := exec_follows member
  cases piece <;> simp [Piece.Follows, Loading.EndsWith] at follows
  case checkLoaded sa name device other =>
    obtain ⟨-, rfl, rfl, rfl⟩ := follows
    exact ⟨name, rfl⟩

/-- The pieces below that open a bracket. -/
def Inner (sa : Int) (piece : Piece) : Prop :=
  piece = .removeCheckLoadedMsg sa ∨ piece = .sendAbilityStateEvent sa .abilityLoadSuccessEvent ∨
    ∃ srcDeviceId callback, piece = .cleanCallback sa srcDeviceId callback

/-- No call and no task begins with one of them. -/
theorem step_inner {opens closes : Piece → Prop} (good : Bracketed opens closes x)
    (inner : ∀ piece, opens piece → Inner sa piece)
    (made : ∀ env piece, Followed opens closes (x.shared.exec env piece).2) :
    Bracketed opens closes (x.step label) := by
  apply step_linked good
  · intro call piece member opened
    have kind := inner piece opened
    have begins : piece.Begins x.shared call := enter_begins member
    cases call <;> grind [Piece.Begins, Inner]
  · intro task piece member opened
    have kind := inner piece opened
    cases task <;> grind [WorkTask.pieces, Inner]
  · exact made

theorem step_announcing (good : x.Announcing sa) : (x.step label).Announcing sa := by
  apply step_inner good
  · exact fun piece opens => opens.imp_right .inl
  · intro env piece
    by_cases inserts : ∃ saInfo, piece = .insertAbility sa saInfo
    · obtain ⟨saInfo, rfl⟩ := inserts
      simp only [Manager.exec]
      split <;> simp [Followed]
    · exact followed_of_plain fun made member opens => inserts (insert_of_made member opens)

theorem step_delivering (good : x.Delivering sa) : (x.step label).Delivering sa := by
  apply step_inner good
  · exact fun piece opens => .inl opens
  · intro env piece
    by_cases inserts : ∃ saInfo, piece = .insertAbility sa saInfo
    · obtain ⟨saInfo, rfl⟩ := inserts
      simp only [Manager.exec]
      split <;> simp [Followed]
    · exact followed_of_plain fun made member opens => inserts (insert_of_made member (Or.inl opens))

theorem step_failing (good : x.Failing sa) : (x.step label).Failing sa := by
  apply step_inner good
  · exact fun piece opens => .inr (.inr opens)
  · intro env piece
    by_cases checks : ∃ name srcDeviceId callback, piece = .checkLoaded sa name srcDeviceId callback
    · obtain ⟨name, srcDeviceId, callback, rfl⟩ := checks
      simp only [Manager.exec]
      split <;> simp [Followed]
    · refine followed_of_plain fun made member => ?_
      rintro ⟨srcDeviceId, callback, rfl⟩
      obtain ⟨name, rfl⟩ := timeout_of_made member
      exact checks ⟨name, srcDeviceId, callback, rfl⟩

end Machine

end Samgr
