import Samgr.Manager.Entries
import Samgr.Manager.Simulation

/-! The objects that a load hands to its callers. An added message carries the object it was
posted for, and reports it to whatever entries it finds. The object is one that was
registered after the request, unless the request came while the message of an earlier
registration was still on its way. -/
namespace Samgr

/-- The object was registered for the ability at some moment at or after the one at which the
registry's history had the given length. -/
def Manager.RegisteredSince (m : Manager) (sa : Int) (remoteObject since : Nat) : Prop :=
  since ≤ m.history.length ∧
    ∃ registry ∈ m.history.take (m.history.length + 1 - since),
      registry[sa]?.map SAInfo.remoteObj = some remoteObject

instance (m : Manager) (sa : Int) (remoteObject since : Nat) :
    Decidable (m.RegisteredSince sa remoteObject since) :=
  inferInstanceAs (Decidable (_ ∧ _))

/-- The object that an added message of the ability carries. -/
def WorkTask.announces (sa : Int) : WorkTask → Option Nat
  | .notifyAdded id remoteObject => if id = sa then some remoteObject else none
  | _ => none

def Piece.announces (sa : Int) : Piece → Option Nat
  | .sendSystemAbilityAddedMsg id remoteObject | .notifySystemAbilityLoaded id remoteObject =>
      if id = sa then some remoteObject else none
  | _ => none

/-- The objects of the added messages of the ability that are queued, still to be posted, or
about to notify the entries. -/
def Manager.announced (m : Manager) (pieces : List Piece) (sa : Int) : List Nat :=
  m.workHandler.waiting.filterMap (fun entry => entry.2.announces sa) ++
    pieces.filterMap (Piece.announces sa)

/-- The answer to a load request that found the ability registered. -/
def Piece.answer : Piece → Option (Int × Nat × Nat)
  | .sendLoadedSystemAbilityMsg load remoteObject =>
      some (load.systemAbilityId, remoteObject, load.since)
  | .notifyLoaded sa remoteObject _ since => some (sa, remoteObject, since)
  | _ => none

def WorkTask.answer : WorkTask → Option (Int × Nat × Nat)
  | .notifyLoaded sa remoteObject _ since => some (sa, remoteObject, since)
  | _ => none

def Report.success : Report → Option (Int × Nat × Nat)
  | .onLoadSystemAbilitySuccess sa remoteObject _ since _ => some (sa, remoteObject, since)
  | _ => none

namespace Manager

variable {env : Env} {m n : Manager} {piece : Piece} {pieces others : List Piece} {sa : Int}

/-- The history of the registry only grows. -/
def Grows (m n : Manager) : Prop := n.history = m.history ∨ ∃ registry, n.history = registry :: m.history

theorem exec_grows : m.Grows (m.exec env piece).1 := by
  have move : RegistryMove m piece (m.exec env piece).1 (m.exec env piece).2 := exec_registry piece
  cases move with
  | same kept past => exact Or.inl past
  | inserted id saInfo source after past next => exact Or.inr ⟨_, past⟩
  | erased id before after past source next => exact Or.inr ⟨_, past⟩

theorem Grows.length_le (grows : m.Grows n) : m.history.length ≤ n.history.length := by
  rcases grows with same | ⟨registry, longer⟩
  · exact Nat.le_of_eq (by rw [same])
  · rw [longer]
    exact Nat.le_succ _

theorem RegisteredSince.mono {remoteObject since : Nat} (grows : m.Grows n)
    (fresh : m.RegisteredSince sa remoteObject since) : n.RegisteredSince sa remoteObject since := by
  obtain ⟨bound, registry, member, found⟩ := fresh
  refine ⟨Nat.le_trans bound grows.length_le, registry, ?_, found⟩
  rcases grows with same | ⟨newest, longer⟩
  · rw [same]
    exact member
  · have later : m.history.length + 1 + 1 - since = (m.history.length + 1 - since) + 1 := by omega
    rw [longer, List.length_cons, later, List.take_succ_cons]
    exact List.mem_cons_of_mem newest member

/-- What is registered now is registered since any request. -/
theorem registeredSince_of_registered {remoteObject since : Nat}
    (newest : m.history.head? = some m.abilityMap) (bound : since ≤ m.history.length)
    (found : m.abilityMap[sa]?.map SAInfo.remoteObj = some remoteObject) :
    m.RegisteredSince sa remoteObject since := by
  obtain ⟨past, shape⟩ : ∃ past, m.history = m.abilityMap :: past := by
    cases history : m.history with
    | nil => simp [history] at newest
    | cons head past =>
        simp only [history, List.head?_cons, Option.some.injEq] at newest
        exact ⟨past, by rw [newest]⟩
  refine ⟨bound, m.abilityMap, ?_, found⟩
  have positive : m.history.length + 1 - since = (m.history.length - since) + 1 := by omega
  rw [positive, shape, List.take_succ_cons]
  exact List.mem_cons_self

theorem exec_newest (newest : m.history.head? = some m.abilityMap) :
    (m.exec env piece).1.history.head? = some (m.exec env piece).1.abilityMap := by
  have move : RegistryMove m piece (m.exec env piece).1 (m.exec env piece).2 := exec_registry piece
  cases move with
  | same kept past => rw [kept, past, newest]
  | inserted id saInfo source after past next => rw [past, List.head?_cons]
  | erased id before after past source next => rw [past, List.head?_cons]

theorem mem_announced {remoteObject : Nat} :
    remoteObject ∈ m.announced pieces sa ↔
      (∃ handle, (handle, .notifyAdded sa remoteObject) ∈ m.workHandler.waiting) ∨
        .sendSystemAbilityAddedMsg sa remoteObject ∈ pieces ∨
        .notifySystemAbilityLoaded sa remoteObject ∈ pieces := by
  simp only [announced, List.mem_append, List.mem_filterMap]
  constructor
  · rintro (⟨⟨handle, task⟩, member, announces⟩ | ⟨piece, member, announces⟩)
    · cases task <;> simp [WorkTask.announces] at announces
      obtain ⟨rfl, rfl⟩ := announces
      exact Or.inl ⟨handle, member⟩
    · cases piece <;> simp [Piece.announces] at announces
      · obtain ⟨rfl, rfl⟩ := announces
        exact Or.inr (Or.inl member)
      · obtain ⟨rfl, rfl⟩ := announces
        exact Or.inr (Or.inr member)
  · rintro (⟨handle, member⟩ | member | member)
    · exact Or.inl ⟨_, member, by simp [WorkTask.announces]⟩
    · exact Or.inr ⟨_, member, by simp [Piece.announces]⟩
    · exact Or.inr ⟨_, member, by simp [Piece.announces]⟩

theorem announced_perm (same : pieces.Perm others) {remoteObject : Nat} :
    remoteObject ∈ m.announced pieces sa ↔ remoteObject ∈ m.announced others sa := by
  simp only [mem_announced, same.mem_iff]

/-- A registration that has still to post its message has just registered its object. -/
theorem registered_of_made {remoteObject : Nat}
    (made : .sendSystemAbilityAddedMsg sa remoteObject ∈ (m.exec env piece).2) :
    (m.exec env piece).1.abilityMap[sa]?.map SAInfo.remoteObj = some remoteObject := by
  obtain ⟨saInfo, rfl, rfl⟩ : ∃ saInfo, piece = .insertAbility sa saInfo ∧
      remoteObject = saInfo.remoteObj := by
    have follows := exec_follows made
    cases piece <;> simp [Piece.Follows, Loading.EndsWith] at follows
    case insertAbility id saInfo =>
      obtain ⟨rfl, rfl⟩ := follows
      exact ⟨saInfo, rfl, rfl⟩
  cases result : m.insertAbility sa saInfo with
  | none => simp [exec, result] at made
  | some inserted =>
      have registry : inserted.abilityMap = m.abilityMap.insert sa saInfo := by
        simp only [insertAbility] at result
        split at result
        · cases result
        · cases result
          rfl
      simp [exec, result, registry]

/-- A message that is under way after a piece was so before, or the piece registered the
ability with its object. -/
theorem announced_of_exec {remoteObject : Nat}
    (after : remoteObject ∈ (m.exec env piece).1.announced ((m.exec env piece).2 ++ others) sa) :
    remoteObject ∈ m.announced (piece :: others) sa ∨
      (m.exec env piece).1.abilityMap[sa]?.map SAInfo.remoteObj = some remoteObject := by
  rcases mem_announced.mp after with ⟨handle, waits⟩ | member | member
  · rcases exec_posts waits with waits | posted
    · exact Or.inl (mem_announced.mpr (Or.inl ⟨handle, waits⟩))
    · refine Or.inl (mem_announced.mpr (Or.inr (Or.inl ?_)))
      cases piece <;> simp [WorkTask.PostedBy] at posted
      case sendSystemAbilityAddedMsg id object =>
        obtain ⟨rfl, rfl⟩ := posted
        exact List.mem_cons_self
  · rcases List.mem_append.mp member with made | member
    · exact Or.inr (registered_of_made made)
    · exact Or.inl (mem_announced.mpr (Or.inr (Or.inl (List.mem_cons_of_mem _ member))))
  · rcases List.mem_append.mp member with made | member
    · have follows := exec_follows made
      cases piece <;> simp [Piece.Follows, Loading.EndsWith] at follows
    · exact Or.inl (mem_announced.mpr (Or.inr (Or.inr (List.mem_cons_of_mem _ member))))

/-- A success that is reported after a piece was so before, or it answers a request that found
the ability registered, or an added message reports it to one of the entries. -/
theorem exec_success {report : Report} {remoteObject since : Nat}
    (success : report.success = some (sa, remoteObject, since))
    (reported : report ∈ (m.exec env piece).1.reports) :
    report ∈ m.reports ∨ piece.answer = some (sa, remoteObject, since) ∨
      piece = .notifySystemAbilityLoaded sa remoteObject ∧
        ∃ deviceId entry, entry ∈ m.callbacksOf sa deviceId ∧ entry.since = since := by
  obtain ⟨new, after, made⟩ := exec_reports env m piece
  rw [after] at reported
  rcases List.mem_append.mp reported with reported | reported
  · have source := made report reported
    cases piece with
    | notifySystemAbilityLoaded id object =>
        obtain ⟨item, entry, found, inside, rfl⟩ := source
        simp only [Report.success, Option.some.injEq, Prod.mk.injEq] at success
        obtain ⟨rfl, rfl, rfl⟩ := success
        obtain ⟨deviceId, inside⟩ := AbilityItem.mem_callbacks.mp inside
        refine Or.inr (Or.inr ⟨rfl, deviceId, entry, ?_, rfl⟩)
        rw [callbacksOf, itemAt_of_found found]
        exact inside
    | notifyLoaded id object callback moment =>
        obtain rfl := source
        exact Or.inr (Or.inl success)
    | findSystemAbilityNotify id added =>
        obtain ⟨listener, rfl⟩ := source
        cases added <;> cases success
    | _ => grind [Report.MadeBy, Report.success]
  · exact Or.inl reported

end Manager

namespace Machine

/-- A load that finds its ability missing comes after every added message of it that is under
way: each of them carries an object registered at or after the request. -/
def loadInOrder (x : Machine) (label : MachineLabel) : Bool :=
  match x.next label with
  | some (.doLoadSystemAbility load) =>
      (x.shared.checkSystemAbility load.systemAbilityId).isSome ||
        (x.shared.announced x.inFlight load.systemAbilityId).all fun remoteObject =>
          x.shared.RegisteredSince load.systemAbilityId remoteObject load.since
  | _ => true

/-- Nothing stale is reported or about to be reported. -/
structure Fresh (m : Manager) (pieces : List Piece) : Prop where
  newest : m.history.head? = some m.abilityMap
  loads : ∀ piece ∈ pieces, ∀ load, piece.loading = some load → load.since ≤ m.history.length
  entries : ∀ sa deviceId, ∀ entry ∈ m.callbacksOf sa deviceId, entry.since ≤ m.history.length ∧
    ∀ remoteObject ∈ m.announced pieces sa, m.RegisteredSince sa remoteObject entry.since
  registering : ∀ load, .registerCallback load ∈ pieces →
    ∀ remoteObject ∈ m.announced pieces load.systemAbilityId,
      m.RegisteredSince load.systemAbilityId remoteObject load.since
  answers : ∀ piece ∈ pieces, ∀ sa remoteObject since, piece.answer = some (sa, remoteObject, since) →
    m.RegisteredSince sa remoteObject since
  tasks : ∀ entry ∈ m.workHandler.waiting, ∀ sa remoteObject since,
    entry.2.answer = some (sa, remoteObject, since) → m.RegisteredSince sa remoteObject since
  reported : ∀ report ∈ m.reports, ∀ sa remoteObject since,
    report.success = some (sa, remoteObject, since) → m.RegisteredSince sa remoteObject since

variable {x : Machine} {label : MachineLabel} {env : Env} {piece : Piece} {others : List Piece}

theorem Fresh.perm {m : Manager} {pieces : List Piece} (same : pieces.Perm others)
    (good : Fresh m pieces) : Fresh m others := by
  refine ⟨good.newest, fun piece member => good.loads piece (same.mem_iff.mpr member), ?_, ?_,
    fun piece member => good.answers piece (same.mem_iff.mpr member), good.tasks, good.reported⟩
  · intro sa deviceId entry inside
    refine ⟨(good.entries sa deviceId entry inside).1, fun remoteObject announced => ?_⟩
    exact (good.entries sa deviceId entry inside).2 remoteObject
      ((Manager.announced_perm same).mpr announced)
  · intro load member remoteObject announced
    exact good.registering load (same.mem_iff.mpr member) remoteObject
      ((Manager.announced_perm same).mpr announced)

/-- New pieces that announce nothing, and are no part of a load past its first check. -/
theorem Fresh.append {m : Manager} {pieces made : List Piece} (good : Fresh m pieces)
    (loads : ∀ piece ∈ made, ∀ load, piece.loading = some load → load.since ≤ m.history.length)
    (quiet : ∀ piece ∈ made, piece.answer = none ∧ (∀ load, piece ≠ .registerCallback load) ∧
      ∀ sa, piece.announces sa = none) : Fresh m (made ++ pieces) := by
  have announced : ∀ sa, m.announced (made ++ pieces) sa = m.announced pieces sa := by
    intro sa
    have none : made.filterMap (Piece.announces sa) = [] := by
      rw [List.filterMap_eq_nil_iff]
      exact fun piece member => (quiet piece member).2.2 sa
    simp [Manager.announced, none]
  refine ⟨good.newest, ?_, ?_, ?_, ?_, good.tasks, good.reported⟩
  · intro piece member
    rcases List.mem_append.mp member with member | member
    · exact loads piece member
    · exact good.loads piece member
  · intro sa
    rw [announced]
    exact good.entries sa
  · intro load member
    rw [announced]
    rcases List.mem_append.mp member with member | member
    · exact absurd rfl ((quiet _ member).2.1 load)
    · exact good.registering load member
  · intro piece member sa remoteObject since answer
    rcases List.mem_append.mp member with member | member
    · rw [(quiet piece member).1] at answer
      cases answer
    · exact good.answers piece member sa remoteObject since answer

theorem loading_of_follows {m : Manager} {made : Piece} {load : Loading}
    (follows : made.Follows m piece) (loading : made.loading = some load) :
    piece.loading = some load ∨ load.since = m.history.length := by
  -- a piece that nothing follows is closed before the search
  cases piece <;> simp only [Piece.Follows, Loading.EndsWith] at follows <;> grind [Piece.loading]

theorem answer_of_follows {m : Manager} {made : Piece} {sa : Int} {remoteObject since : Nat}
    (follows : made.Follows m piece) (answer : made.answer = some (sa, remoteObject, since)) :
    ∃ load, piece = .doLoadSystemAbility load ∧ load.systemAbilityId = sa ∧ load.since = since ∧
      m.checkSystemAbility sa = some remoteObject := by
  cases made <;> simp [Piece.answer] at answer
  case sendLoadedSystemAbilityMsg load object =>
    obtain ⟨rfl, rfl, rfl⟩ := answer
    cases piece <;> simp [Piece.Follows, Loading.EndsWith] at follows
    case doLoadSystemAbility other =>
      obtain ⟨found, rfl⟩ := follows
      exact ⟨load, rfl, rfl, rfl, found⟩
  case notifyLoaded id object callback moment =>
    cases piece <;> simp [Piece.Follows, Loading.EndsWith] at follows

theorem registering_of_follows {m : Manager} {load : Loading}
    (follows : Piece.Follows (.registerCallback load) m piece) :
    piece = .doLoadSystemAbility load ∧ m.checkSystemAbility load.systemAbilityId = none := by
  cases piece <;> simp [Piece.Follows, Loading.EndsWith] at follows
  case doLoadSystemAbility other =>
    obtain ⟨absent, rfl⟩ := follows
    exact ⟨rfl, absent⟩

theorem registered_of_check {m : Manager} {sa : Int} {remoteObject : Nat}
    (found : m.checkSystemAbility sa = some remoteObject) :
    m.abilityMap[sa]?.map SAInfo.remoteObj = some remoteObject := by
  simp only [Manager.checkSystemAbility] at found
  split at found
  · exact found
  · cases found

/-- An object that is announced after the piece is fresh for whom all that were announced
before it are. -/
theorem Fresh.announced_turn (good : Fresh x.shared (piece :: others)) {sa : Int} {since : Nat}
    (bound : since ≤ x.shared.history.length)
    (before : ∀ remoteObject ∈ x.shared.announced (piece :: others) sa,
      x.shared.RegisteredSince sa remoteObject since) :
    ∀ remoteObject ∈ (x.shared.exec env piece).1.announced ((x.shared.exec env piece).2 ++ others) sa,
      (x.shared.exec env piece).1.RegisteredSince sa remoteObject since := by
  intro remoteObject announced
  rcases Manager.announced_of_exec announced with old | registered
  · exact (before remoteObject old).mono Manager.exec_grows
  · exact Manager.registeredSince_of_registered (Manager.exec_newest good.newest)
      (Nat.le_trans bound Manager.exec_grows.length_le) registered

theorem Fresh.entries_turn (good : Fresh x.shared (piece :: others)) (sa : Int) (deviceId : String)
    (entry : CallbackItem) (inside : entry ∈ (x.shared.exec env piece).1.callbacksOf sa deviceId) :
    entry.since ≤ x.shared.history.length ∧
      ∀ remoteObject ∈ x.shared.announced (piece :: others) sa,
        x.shared.RegisteredSince sa remoteObject entry.since := by
  have move : EntryMove x.shared piece (x.shared.exec env piece).1 (x.shared.exec env piece).2 :=
    Manager.exec_entries
  cases move with
  | same kept ids queue =>
      rw [kept] at inside
      exact good.entries sa deviceId entry inside
  | added load added source callback id since remote fresh after ids next =>
      rw [after] at inside
      split at inside
      · rename_i own
        rcases List.mem_append.mp inside with inside | inside
        · exact good.entries sa deviceId entry inside
        · obtain rfl := List.mem_singleton.mp inside
          subst source
          rw [since, own.1]
          exact ⟨good.loads _ List.mem_cons_self load rfl, good.registering load List.mem_cons_self⟩
      · exact good.entries sa deviceId entry inside
  | cleared id source after ids =>
      rw [after] at inside
      split at inside
      · cases inside
      · exact good.entries sa deviceId entry inside
  | died remoteObject source after ids =>
      rw [after] at inside
      exact good.entries sa deviceId entry (List.mem_of_mem_eraseP inside)
  | failed id srcDeviceId callback found source failing posted after ids =>
      rw [after] at inside
      split at inside
      · exact good.entries sa deviceId entry (List.mem_filter.mp inside).1
      · exact good.entries sa deviceId entry inside

theorem fresh_turn (inOrder : x.loadInOrder label = true) (next : x.next label = some piece)
    (opened : x.inFlight.Perm (piece :: others)) (good : Fresh x.shared (piece :: others)) :
    Fresh (x.shared.exec env piece).1 ((x.shared.exec env piece).2 ++ others) := by
  have longer : x.shared.history.length ≤ (x.shared.exec env piece).1.history.length :=
    Manager.exec_grows.length_le
  have later : ∀ {sa remoteObject since}, x.shared.RegisteredSince sa remoteObject since →
      (x.shared.exec env piece).1.RegisteredSince sa remoteObject since :=
    fun fresh => fresh.mono Manager.exec_grows
  refine ⟨Manager.exec_newest good.newest, ?_, ?_, ?_, ?_, ?_, ?_⟩
  · intro made member load loading
    rcases List.mem_append.mp member with member | member
    · rcases loading_of_follows (exec_follows member) loading with before | now
      · exact Nat.le_trans (good.loads piece List.mem_cons_self load before) longer
      · exact now ▸ longer
    · exact Nat.le_trans (good.loads made (List.mem_cons_of_mem piece member) load loading) longer
  · intro sa deviceId entry inside
    obtain ⟨bound, before⟩ := good.entries_turn sa deviceId entry inside
    exact ⟨Nat.le_trans bound longer, good.announced_turn bound before⟩
  · intro load member
    rcases List.mem_append.mp member with member | member
    · obtain ⟨rfl, absent⟩ := registering_of_follows (exec_follows member)
      refine good.announced_turn (good.loads _ List.mem_cons_self load rfl) ?_
      intro remoteObject announced
      simp only [loadInOrder, next, absent, Option.isSome_none, Bool.false_or, List.all_eq_true,
        decide_eq_true_eq] at inOrder
      exact inOrder remoteObject ((Manager.announced_perm opened).mpr announced)
    · have member := List.mem_cons_of_mem piece member
      exact good.announced_turn (good.loads _ member load rfl) (good.registering load member)
  · intro made member sa remoteObject since answer
    rcases List.mem_append.mp member with member | member
    · obtain ⟨load, rfl, rfl, rfl, found⟩ := answer_of_follows (exec_follows member) answer
      exact later (Manager.registeredSince_of_registered good.newest
        (good.loads _ List.mem_cons_self load rfl) (registered_of_check found))
    · exact later (good.answers made (List.mem_cons_of_mem piece member) sa remoteObject since answer)
  · intro entry waits sa remoteObject since answer
    rcases Manager.exec_posts waits with waits | posted
    · exact later (good.tasks entry waits sa remoteObject since answer)
    · refine later (good.answers piece List.mem_cons_self sa remoteObject since ?_)
      cases piece <;> grind [WorkTask.PostedBy, WorkTask.answer, Piece.answer]
  · intro report reported sa remoteObject since success
    rcases Manager.exec_success success reported with before | answer | ⟨rfl, deviceId, entry, inside, rfl⟩
    · exact later (good.reported report before sa remoteObject since success)
    · exact later (good.answers piece List.mem_cons_self sa remoteObject since answer)
    · refine later ((good.entries sa deviceId entry inside).2 remoteObject ?_)
      exact Manager.mem_announced.mpr (Or.inr (Or.inr List.mem_cons_self))

theorem Fresh.dispatch {m : Manager} {task : WorkTask} {rest : TaskQueue Int WorkTask}
    {pieces : List Piece} (popped : m.workHandler.pop = some (task, rest)) (good : Fresh m pieces) :
    Fresh { m with workHandler := rest } (task.pieces ++ pieces) := by
  obtain ⟨handle, waited⟩ := TaskQueue.waiting_of_pop popped
  have fewer : ∀ sa, ∀ remoteObject ∈ Manager.announced { m with workHandler := rest }
      (task.pieces ++ pieces) sa, remoteObject ∈ m.announced pieces sa := by
    intro sa remoteObject announced
    rw [Manager.mem_announced] at announced ⊢
    rcases announced with ⟨other, waits⟩ | member | member
    · exact Or.inl ⟨other, TaskQueue.mem_waiting_pop popped waits⟩
    · rcases List.mem_append.mp member with member | member
      · cases task <;> simp [WorkTask.pieces] at member
      · exact Or.inr (Or.inl member)
    · rcases List.mem_append.mp member with member | member
      · cases task <;> simp [WorkTask.pieces] at member
        obtain ⟨rfl, rfl⟩ := member
        exact Or.inl ⟨handle, waited⟩
      · exact Or.inr (Or.inr member)
  refine ⟨good.newest, ?_, ?_, ?_, ?_, ?_, good.reported⟩
  · intro piece member load loading
    rcases List.mem_append.mp member with member | member
    · cases task <;> grind [WorkTask.pieces, Piece.loading]
    · exact good.loads piece member load loading
  · intro sa deviceId entry inside
    refine ⟨(good.entries sa deviceId entry inside).1, fun remoteObject announced => ?_⟩
    exact (good.entries sa deviceId entry inside).2 remoteObject (fewer sa remoteObject announced)
  · intro load member remoteObject announced
    rcases List.mem_append.mp member with member | member
    · cases task <;> simp [WorkTask.pieces] at member
    · exact good.registering load member remoteObject (fewer _ remoteObject announced)
  · intro piece member sa remoteObject since answer
    rcases List.mem_append.mp member with member | member
    · refine good.tasks (handle, task) waited sa remoteObject since ?_
      cases task <;> grind [WorkTask.pieces, Piece.answer, WorkTask.answer]
    · exact good.answers piece member sa remoteObject since answer
  · intro entry waits
    exact good.tasks entry (TaskQueue.mem_waiting_pop popped waits)

theorem Fresh.expire {m : Manager} {pieces : List Piece} (handle : Nat) (good : Fresh m pieces) :
    Fresh { m with workHandler := m.workHandler.expire handle } pieces := by
  have announced : ∀ sa remoteObject, remoteObject ∈ Manager.announced
      { m with workHandler := m.workHandler.expire handle } pieces sa →
      remoteObject ∈ m.announced pieces sa := by
    intro sa remoteObject
    rw [Manager.mem_announced, Manager.mem_announced]
    refine Or.imp_left ?_
    rintro ⟨other, waits⟩
    exact ⟨other, TaskQueue.mem_waiting_expire.mp waits⟩
  refine ⟨good.newest, good.loads, ?_, ?_, good.answers, ?_, good.reported⟩
  · intro sa deviceId entry inside
    refine ⟨(good.entries sa deviceId entry inside).1, fun remoteObject still => ?_⟩
    exact (good.entries sa deviceId entry inside).2 remoteObject (announced sa remoteObject still)
  · intro load member remoteObject still
    exact good.registering load member remoteObject (announced _ remoteObject still)
  · intro entry waits
    exact good.tasks entry (TaskQueue.mem_waiting_expire.mp waits)

theorem step_fresh (inOrder : x.loadInOrder label = true) (good : Fresh x.shared x.inFlight) :
    Fresh (x.step label).shared (x.step label).inFlight := by
  refine step_keeps Fresh ?_ ?_ ?_ ?_ ?_ good
  · exact fun same fresh => fresh.perm same
  · intro call pieces fresh
    refine fresh.append (fun piece member load loading => ?_) fun piece member => ?_
    · have begins : piece.Begins x.shared call := enter_begins member
      cases call <;> grind [Piece.Begins, Piece.loading]
    · have begins : piece.Begins x.shared call := enter_begins member
      cases call <;> grind [Piece.Begins, Piece.answer, Piece.announces]
  · exact fun env piece others next _ opened fresh => fresh_turn inOrder next opened fresh
  · exact fun task rest pieces popped fresh => fresh.dispatch popped
  · exact fun handle fresh => fresh.expire handle

theorem fresh_init (saProfiles : List SaProfile) :
    Fresh (init saProfiles).shared (init saProfiles).inFlight := by
  refine ⟨rfl, fun _ member => absurd member List.not_mem_nil, fun sa deviceId entry inside => ?_,
    fun _ member => absurd member List.not_mem_nil, fun _ member => absurd member List.not_mem_nil,
    fun _ member => absurd member List.not_mem_nil, fun _ member => absurd member List.not_mem_nil⟩
  have empty : (init saProfiles).shared.callbacksOf sa deviceId = [] := by
    simp [Manager.callbacksOf, Manager.itemAt, init, Manager.init, AbilityItem.listOf]
  rw [empty] at inside
  cases inside

/-- In a run whose loads come in order, every object that was handed to a caller was registered
for its ability at some moment at or after the request. -/
theorem load_success_is_fresh (saProfiles : List SaProfile) (labels : List MachineLabel)
    (guarded : Runs.Guarded step (fun x label => x.loadInOrder label = true) (init saProfiles) labels)
    (sa : Int) (remoteObject : Nat) (callback : RemoteInterface) (since : Nat) (entry : Option Nat)
    (reported : .onLoadSystemAbilitySuccess sa remoteObject callback since entry ∈
      (runFrom saProfiles labels).shared.reports) :
    (runFrom saProfiles labels).shared.RegisteredSince sa remoteObject since := by
  have fresh : Fresh (runFrom saProfiles labels).shared (runFrom saProfiles labels).inFlight :=
    Runs.guarded_invariant (fun x : Machine => Fresh x.shared x.inFlight)
      (fun _ _ inOrder good => step_fresh inOrder good) guarded (fresh_init saProfiles)
  exact fresh.reported _ reported sa remoteObject since rfl

/-- Ability 1 is asked for, registered, and handed to the caller. -/
def loadOne : List MachineLabel :=
  [.call (.addSystemProcess ⟨"host", 100, 1000⟩ 3)] ++ runs 0 3 ++
    [.call (.load (Scheduler.localLoad 1 7 70))] ++ runs 1 9 ++
    [.call (.addSystemAbility 1 5 false)] ++ runs 2 6 ++ [.dispatch, .run none {}, .run none {}]

theorem loadOne_is_fresh : (runFrom hostOfOne loadOne).shared.RegisteredSince 1 5 1 := by
  have fresh := load_success_is_fresh hostOfOne loadOne (by decide +kernel) 1 5 ⟨70, 70⟩ 1 (some 0)
    (by decide +kernel)
  exact fresh

/-- Ability 1 is registered and removed before its added message is delivered; the message
then answers a request that was made after the removal. -/
def lateMessage : List MachineLabel :=
  [.call (.addSystemProcess ⟨"host", 100, 1000⟩ 3)] ++ runs 0 3 ++
    [.call (.addSystemAbility 1 5 false)] ++ runs 1 6 ++
    [.call (.removeSystemAbility 1)] ++ runs 2 3 ++
    [.call (.load (Scheduler.localLoad 1 7 70))] ++ runs 3 9 ++
    [.dispatch, .run none {}, .run none {}]

theorem late_message_reports_removed_object :
    ¬ ∀ (saProfiles : List SaProfile) (labels : List MachineLabel) (sa : Int) (remoteObject : Nat)
        (callback : RemoteInterface) (since : Nat) (entry : Option Nat),
      .onLoadSystemAbilitySuccess sa remoteObject callback since entry ∈
        (runFrom saProfiles labels).shared.reports →
      (runFrom saProfiles labels).shared.RegisteredSince sa remoteObject since := by
  intro always
  have fresh := always hostOfOne lateMessage 1 5 ⟨70, 70⟩ 3 (some 0) (by decide +kernel)
  revert fresh
  decide +kernel

end Machine

end Samgr
