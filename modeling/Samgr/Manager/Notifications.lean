import Samgr.Manager.StatusNotices

/-! The notifications of a listener over whole runs: they agree with the registry as long as
every step comes at a moment that keeps them in order. -/
namespace Samgr

open Notices

namespace Manager

/-- All that is known of one listener and one ability in a run that keeps the order. -/
structure Notified (sa : Int) (object : Nat) (m : Manager) (worker clients : List Piece) : Prop where
  named : m.Named
  subscribed : m.Subscribed
  undelayed : m.Undelayed sa object
  valid : ∀ piece ∈ worker ++ clients, Valid piece
  silent : ∀ piece ∈ clients, piece.notice sa object = none
  good : (m.track sa object (worker ++ clients) (worker.filterMap (Piece.notice sa object))).Good

end Manager

namespace Machine

def track (x : Machine) (sa : Int) (object : Nat) : Track :=
  x.shared.track sa object x.inFlight (x.worker.filterMap (Piece.notice sa object))

/-- The manager is that of the foreground user or of the base user, and the call does not end
the subscription of the object to the ability. -/
def staysSubscribed (sa : Int) (object : Nat) : MachineLabel → Bool
  | .run _ env => env.isForegroundUser
  | .call (.unSubscribeSystemAbility id listener) => !(id == sa && listener.object == object)
  | .call (.unSubscribeDied remoteObject) => remoteObject != object
  | _ => true

/-- The piece that the step runs comes at a moment that keeps the notices in order. -/
def ordersNotices (sa : Int) (object : Nat) (x : Machine) (label : MachineLabel) : Bool :=
  (x.next label).all (x.shared.ordersNotices sa object (x.track sa object))

end Machine

namespace Manager.Notified

variable {sa : Int} {object : Nat} {m : Manager} {worker clients others : List Piece} {piece : Piece}
variable {env : Env}

theorem perm (good : Notified sa object m worker clients) (same : clients.Perm others) :
    Notified sa object m worker others where
  named := good.named
  subscribed := good.subscribed
  undelayed := good.undelayed
  valid := fun piece member =>
    good.valid piece ((List.Perm.append_left worker same).mem_iff.mpr member)
  silent := fun piece member => good.silent piece (same.mem_iff.mpr member)
  good := track_perm (List.Perm.append_left worker same) ▸ good.good

theorem call (good : Notified sa object m worker clients) (call : Call) :
    Notified sa object m worker (m.enter call ++ clients) where
  named := good.named
  subscribed := good.subscribed
  undelayed := good.undelayed
  valid := by
    intro piece member
    rcases List.mem_append.mp member with member | member
    · exact good.valid piece (List.mem_append_left _ member)
    · rcases List.mem_append.mp member with entered | member
      · have plain : Plain sa object piece ∧ Valid piece ∧ _ := enter_plain entered
        exact plain.2.1
      · exact good.valid piece (List.mem_append_right _ member)
  silent := by
    intro piece member
    rcases List.mem_append.mp member with entered | member
    · exact (enter_plain entered).2.2
    · exact good.silent piece member
  good := by
    have moved : (worker ++ (m.enter call ++ clients)).Perm (m.enter call ++ (worker ++ clients)) := by
      rw [← List.append_assoc, ← List.append_assoc]
      exact List.Perm.append_right clients List.perm_append_comm
    rw [track_perm moved, track_append fun piece member => (enter_plain member).1]
    exact good.good

/-- The worker runs its next piece. -/
theorem worked (good : Notified sa object m (piece :: worker) clients)
    (foreground : env.isForegroundUser = true) (keeps : piece.unsubscribes sa object = false)
    (orders : m.ordersNotices sa object (m.track sa object (piece :: worker ++ clients)
      ((piece :: worker).filterMap (Piece.notice sa object))) piece = true) :
    Notified sa object (m.exec env piece).1 ((m.exec env piece).2 ++ worker) clients where
  named := exec_named good.named
  subscribed := exec_subscribed good.subscribed
  undelayed := exec_undelayed good.undelayed
  valid := by
    intro other member
    rw [List.append_assoc] at member
    rcases List.mem_append.mp member with made | member
    · exact follows_valid (good.valid piece List.mem_cons_self) (exec_follows made)
    · exact good.valid other (List.mem_cons_of_mem _ member)
  silent := good.silent
  good := by
    have split : (piece :: worker).filterMap (Piece.notice sa object) =
        (piece.notice sa object).toList ++ worker.filterMap (Piece.notice sa object) := by
      cases noticed : piece.notice sa object <;> simp [noticed]
    have before := good.good
    rw [split] at before orders
    rw [made_unnoticed, List.append_assoc]
    exact exec_good good.named good.subscribed (good.valid piece List.mem_cons_self) foreground keeps
      orders before

/-- A client runs its next piece. -/
theorem ran (good : Notified sa object m worker (piece :: clients))
    (foreground : env.isForegroundUser = true) (keeps : piece.unsubscribes sa object = false)
    (orders : m.ordersNotices sa object (m.track sa object (worker ++ piece :: clients)
      (worker.filterMap (Piece.notice sa object))) piece = true) :
    Notified sa object (m.exec env piece).1 worker ((m.exec env piece).2 ++ clients) where
  named := exec_named good.named
  subscribed := exec_subscribed good.subscribed
  undelayed := exec_undelayed good.undelayed
  valid := by
    intro other member
    rcases List.mem_append.mp member with member | member
    · exact good.valid other (List.mem_append_left _ member)
    · rcases List.mem_append.mp member with made | member
      · refine follows_valid (good.valid piece ?_) (exec_follows made)
        exact List.mem_append_right _ List.mem_cons_self
      · exact good.valid other (List.mem_append_right _ (List.mem_cons_of_mem _ member))
  silent := by
    intro other member
    rcases List.mem_append.mp member with made | member
    · exact (exec_follows made).unnoticed
    · exact good.silent other (List.mem_cons_of_mem _ member)
  good := by
    have front : (worker ++ piece :: clients).Perm (piece :: (worker ++ clients)) := List.perm_middle
    have back : (worker ++ ((m.exec env piece).2 ++ clients)).Perm
        ((m.exec env piece).2 ++ (worker ++ clients)) := by
      rw [← List.append_assoc, ← List.append_assoc]
      exact List.Perm.append_right clients List.perm_append_comm
    have before := good.good
    have silent : (piece.notice sa object).toList = [] := by
      rw [good.silent piece List.mem_cons_self]
      rfl
    rw [track_perm front] at before orders
    rw [track_perm back]
    refine exec_good good.named good.subscribed
      (good.valid piece (List.mem_append_right _ List.mem_cons_self)) foreground keeps ?_ ?_
    · rw [silent]
      exact orders
    · rw [silent]
      exact before

/-- The worker takes the next task. -/
theorem dispatched (good : Notified sa object m [] clients) {task : WorkTask}
    {rest : TaskQueue Int WorkTask} (popped : m.workHandler.pop = some (task, rest)) :
    Notified sa object { m with workHandler := rest } task.pieces clients where
  named := TaskQueue.Named.pop good.named popped
  subscribed := ⟨good.subscribed.counted, good.subscribed.bounded, good.subscribed.single⟩
  undelayed := by
    obtain ⟨-, -, delayed, -, -⟩ := TaskQueue.pop_eq_some popped
    intro entry waits
    exact good.undelayed entry (delayed ▸ waits)
  valid := by
    intro piece member
    rcases List.mem_append.mp member with taken | member
    · have plain : Plain sa object piece ∧ Valid piece := task_plain taken
      exact plain.2
    · exact good.valid piece member
  silent := good.silent
  good := by
    have queue : m.queued sa object = (task.notice sa object).toList ++
        ({ m with workHandler := rest } : Manager).queued sa object := TaskQueue.readyMarks_pop popped
    have before := good.good
    rw [track_append fun piece member => (task_plain member).1, task_notices]
    simp only [track, List.filterMap_nil, List.nil_append, queue] at before
    exact before

theorem expired (good : Notified sa object m worker clients) (handle : Nat) :
    Notified sa object { m with workHandler := m.workHandler.expire handle } worker clients where
  named := TaskQueue.Named.expire good.named handle
  subscribed := ⟨good.subscribed.counted, good.subscribed.bounded, good.subscribed.single⟩
  undelayed := fun entry waits => good.undelayed entry (List.mem_of_mem_filter waits)
  valid := good.valid
  silent := good.silent
  good := by
    have queue : ({ m with workHandler := m.workHandler.expire handle } : Manager).queued sa object =
        m.queued sa object := TaskQueue.readyMarks_expire good.undelayed
    have before := good.good
    simp only [track, ← queue] at before
    exact before

end Manager.Notified

namespace Machine

variable {x : Machine} {label : MachineLabel} {sa : Int} {object : Nat}

/-- Nobody is about to end the subscription. -/
def Kept (sa : Int) (object : Nat) (x : Machine) : Prop :=
  ∀ piece ∈ x.inFlight, piece.unsubscribes sa object = false

theorem step_kept (stays : staysSubscribed sa object label = true) (good : Kept sa object x) :
    Kept sa object (x.step label) := by
  intro piece member
  rcases Threads.Config.mem_inFlight_step member with old | ⟨call, rfl, entered⟩ |
    ⟨env, running, -, -, made⟩ | ⟨pieces, shared, taken, member⟩
  · exact good piece old
  · have begins : piece.Begins x.shared call := enter_begins entered
    cases call with
    | load request =>
        obtain ⟨load, rfl, -, -, -⟩ := begins
        rfl
    | unSubscribeSystemAbility id listener =>
        obtain rfl : piece = _ := begins
        simpa [staysSubscribed, Piece.unsubscribes, imp_iff_not_or] using stays
    | unSubscribeDied remoteObject =>
        obtain rfl : piece = _ := begins
        simpa [staysSubscribed, Piece.unsubscribes] using stays
    | _ =>
        obtain rfl : piece = _ := begins
        rfl
  · have follows : piece.Follows x.shared running := exec_follows made
    cases piece with
    | unSubscribe id listener =>
        cases running <;> simp [Piece.Follows, Loading.EndsWith] at follows
    | unSubscribeDied remoteObject =>
        cases running <;> simp [Piece.Follows, Loading.EndsWith] at follows
    | _ => rfl
  · obtain ⟨⟨task, rest⟩, -, same⟩ := Option.map_eq_some_iff.mp taken
    simp only [Prod.mk.injEq] at same
    obtain ⟨rfl, -⟩ := same
    cases task <;> simp [WorkTask.pieces] at member
    case notifyAdded id remoteObject => rcases member with rfl | rfl <;> rfl
    case checkLoaded id name srcDeviceId callback => rcases member with rfl | rfl <;> rfl
    all_goals
      subst member
      rfl

theorem step_notified (stays : staysSubscribed sa object label = true)
    (orders : x.ordersNotices sa object label = true) (kept : Kept sa object x)
    (good : Manager.Notified sa object x.shared x.worker x.clients.flatten) :
    Manager.Notified sa object (x.step label).shared (x.step label).worker
      (x.step label).clients.flatten := by
  refine Threads.Config.step_keeps_worker_input (P := managerProgram)
    (fun m worker clients => Manager.Notified sa object m worker clients) ?_ ?_ ?_ ?_ ?_ ?_ good
  · exact fun same good => good.perm same
  · exact fun call clients good => good.call call
  · rintro client env piece rest rfl next before good
    have member : piece ∈ x.inFlight := by simp [Threads.Config.inFlight, before]
    refine good.worked stays (kept piece member) ?_
    have moment : x.shared.ordersNotices sa object (x.track sa object) piece = true := by
      have asked : x.next (.run client env) = some piece := next
      simpa [ordersNotices, asked] using orders
    simpa [track, Threads.Config.inFlight, before] using moment
  · rintro client env piece others rfl next opened good
    have member : piece ∈ x.inFlight :=
      List.mem_append_right _ (opened.mem_iff.mpr List.mem_cons_self)
    refine good.ran stays (kept piece member) ?_
    have moment : x.shared.ordersNotices sa object (x.track sa object) piece = true := by
      have asked : x.next (.run client env) = some piece := next
      simpa [ordersNotices, asked] using orders
    rw [track, Threads.Config.inFlight,
      Manager.track_perm (List.Perm.append_left x.worker opened)] at moment
    exact moment
  · intro pieces shared taken idle good
    obtain ⟨⟨task, rest⟩, popped, same⟩ := Option.map_eq_some_iff.mp taken
    simp only [Prod.mk.injEq] at same
    obtain ⟨rfl, rfl⟩ := same
    exact good.dispatched popped
  · rintro action - good
    cases action with
    | expire handle => exact good.expired handle

theorem notified_init (saProfiles : List SaProfile) (sa : Int) (object : Nat) :
    Manager.Notified sa object (init saProfiles).shared [] [] where
  named := ⟨fun _ waits => absurd waits List.not_mem_nil, fun _ _ recorded =>
    absurd recorded List.not_mem_nil⟩
  subscribed := Manager.subscribed_init saProfiles
  undelayed := fun _ waits => absurd waits List.not_mem_nil
  valid := fun _ member => absurd member List.not_mem_nil
  silent := fun _ member => absurd member List.not_mem_nil
  good := by
    have nothing : (Manager.init saProfiles).track sa object [] [] = ⟨false, 0, 0, 0, [], none, []⟩ := by
      simp [Manager.init, Manager.track, Manager.queued, Manager.notices, Manager.told,
        Manager.listeners, TaskQueue.readyMarks, Keyed.find]
    have start := Track.Good.start
    rw [← nothing] at start
    exact start

/-- Between two OnAddSystemAbility calls the listener gets an OnRemoveSystemAbility call; and
once all calls have returned and the queue has drained, a subscribed listener has heard last
of what is so, and has heard of a registered ability. -/
def NotificationsAgree (sa : Int) (object : Nat) (x : Machine) : Prop :=
  (∀ newer middle older, x.shared.notices sa object = newer ++ true :: (middle ++ true :: older) →
    false ∈ middle) ∧
  (x.inFlight = [] → x.shared.workHandler.ready = [] →
    (∃ item ∈ x.shared.listeners sa, item.listener.object = object) →
    (sa ∈ x.shared.abilityMap → x.shared.notices sa object ≠ []) ∧
    ∀ last, (x.shared.notices sa object).head? = some last →
      (last = true ↔ sa ∈ x.shared.abilityMap))

theorem agree_of_good (good : (x.track sa object).Good) : NotificationsAgree sa object x := by
  have alternates : Alternates (x.shared.notices sa object) := good.log_alternates
  refine ⟨fun newer middle older shape => ?_, fun returned drained listens => ?_⟩
  · rw [shape] at alternates
    exact alternates.between
  · have joined : (x.track sa object).told ≠ none := by
      obtain ⟨item, member, own⟩ := listens
      have inside : object ∈ (x.shared.listeners sa).map SAListener.object :=
        List.mem_map.mpr ⟨item, member, own⟩
      intro none
      exact Keyed.find_eq_none.mp (Option.map_eq_none_iff.mp none) inside
    have idle : x.worker = [] := (List.append_eq_nil_iff.mp returned).1
    have rest : (x.shared.notices sa object).head? = some true ↔
        (x.track sa object).present = true := by
      refine good.at_rest joined ?_ ⟨?_, ?_⟩ ?_
      · simp [track, Manager.track, Manager.queued, TaskQueue.readyMarks, idle, drained]
      · simp [track, Manager.track, returned]
      · simp [track, Manager.track, returned]
      · simp [track, Manager.track, returned]
    have present : (x.track sa object).present = true ↔ sa ∈ x.shared.abilityMap := by
      simp [track, Manager.track]
    rw [present] at rest
    refine ⟨fun there empty => ?_, fun last heard => ?_⟩
    · rw [empty] at rest
      cases rest.mpr there
    · rw [← rest, heard]
      simp

/-- In a run that keeps the listener subscribed, its notifications for an ability agree with
the registry if every step comes at a moment that keeps them in order: no message is posted
behind that of a later change, a listener is greeted with no removed message queued ahead of
it, and once its state was cleared it is not announced to again before a removed message. -/
theorem notifications_agree_with_registry (saProfiles : List SaProfile) (labels : List MachineLabel)
    (sa : Int) (object : Nat) (stays : ∀ label ∈ labels, staysSubscribed sa object label = true)
    (orders : Runs.Guarded step (fun x label => x.ordersNotices sa object label = true)
      (init saProfiles) labels) :
    NotificationsAgree sa object (runFrom saProfiles labels) := by
  have start : Kept sa object (init saProfiles) :=
    fun _ member => absurd member List.not_mem_nil
  have both := (Runs.guarded_of_forall stays (init saProfiles)).and orders
  have kept := Runs.guarded_invariant (fun x : Machine => Kept sa object x ∧
    Manager.Notified sa object x.shared x.worker x.clients.flatten) (fun x label meets good =>
      ⟨step_kept meets.1 good.1, step_notified meets.1 meets.2 good.1 good.2⟩) both
    ⟨start, notified_init saProfiles sa object⟩
  exact agree_of_good kept.2.good

/-- The worker takes a task and runs the given number of its pieces. -/
def works (pieces : Nat) : List MachineLabel :=
  .dispatch :: List.replicate pieces (.run none {})

/-- A listener subscribes to ability 1, which is registered, covered, removed and registered
again, one call after the other. -/
def coverOne : List MachineLabel :=
  [.call (.subscribeSystemAbility 1 ⟨7, 7⟩ 50)] ++ runs 0 2 ++
    [.call (.addSystemAbility 1 100 false)] ++ runs 1 6 ++ works 2 ++
    [.call (.addSystemAbility 1 101 false)] ++ runs 2 6 ++ works 1 ++ works 2 ++
    [.call (.removeSystemAbility 1)] ++ runs 3 3 ++ works 1 ++
    [.call (.addSystemAbility 1 102 false)] ++ runs 4 6 ++ works 2

theorem coverOne_agrees : NotificationsAgree 1 7 (runFrom hostOfOne coverOne) ∧
    (runFrom hostOfOne coverOne).shared.notices 1 7 = [true, false, true, false, true] :=
  ⟨notifications_agree_with_registry hostOfOne coverOne 1 7 (by decide) (by decide +kernel),
    by decide +kernel⟩

/-- Ability 1 is removed and registered again, and the removed message is posted last. -/
def overtakeOne : List MachineLabel :=
  [.call (.subscribeSystemAbility 1 ⟨7, 7⟩ 50)] ++ runs 0 2 ++
    [.call (.addSystemAbility 1 100 false)] ++ runs 1 6 ++ works 2 ++
    [.call (.removeSystemAbility 1)] ++ runs 2 1 ++
    [.call (.addSystemAbility 1 101 false)] ++ runs 3 6 ++ runs 2 2 ++ works 2 ++ works 1

theorem late_removed_message_disagrees :
    ¬ ∀ (saProfiles : List SaProfile) (labels : List MachineLabel) (sa : Int) (object : Nat),
      (∀ label ∈ labels, staysSubscribed sa object label = true) →
      NotificationsAgree sa object (runFrom saProfiles labels) := by
  intro always
  have agree := always hostOfOne overtakeOne 1 7 (by decide)
  have last := (agree.2 (by decide +kernel) (by decide +kernel) (by decide +kernel)).2 false
    (by decide +kernel)
  revert last
  decide +kernel

end Machine

end Samgr
