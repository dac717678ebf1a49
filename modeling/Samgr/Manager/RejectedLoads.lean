import Samgr.Manager.Frames

/-! A load that is refused because its caller has too many callbacks. The item of the ability and its
list for the local device are made before the quota is looked at, so the request leaves no trace only
where both were there. -/
namespace Samgr

/-- Two items hold the same. -/
structure AbilityItem.Same (a b : AbilityItem) : Prop where
  state : b.state = a.state
  event : b.event = a.event
  callbacks : ∀ deviceId : String, b.callbackMap[deviceId]? = a.callbackMap[deviceId]?

theorem AbilityItem.Same.refl (a : AbilityItem) : AbilityItem.Same a a := ⟨rfl, rfl, fun _ => rfl⟩

namespace Manager

/-- Nothing of the requests differs, and an ability that becomes known as an on-demand one is started
for neither or for both. -/
structure Traceless (sa : Int) (m n : Manager) : Prop where
  items : ∀ id : Int, Option.Rel AbilityItem.Same m.startingAbilityMap[id]? n.startingAbilityMap[id]?
  counts : ∀ pid : Int, n.callbackCountMap[pid]? = m.callbackCountMap[pid]?
  starts : ∀ procName, (n.addOnDemandSystemAbilityInfo sa procName).workHandler =
    (m.addOnDemandSystemAbilityInfo sa procName).workHandler

/-- The ability has an item, and the item a list for the local device, be it empty. -/
def hasLocalList (m : Manager) (sa : Int) : Bool :=
  (m.startingAbilityMap[sa]?).any fun item => item.callbackMap.contains LOCAL_DEVICE

variable {m : Manager} {sa : Int} {callback : RemoteInterface} {callingPid : Int} {event : OnDemandEvent}
variable {since : Nat}

/-- What `startingAbilityMap_[id].callbackMap[LOCAL_DEVICE]` makes. -/
def openLocalList (m : Manager) (sa : Int) : Manager :=
  let item := m.itemAt sa
  m.setItem sa
    { item with
      callbackMap := item.callbackMap.insert LOCAL_DEVICE ((item.callbackMap[LOCAL_DEVICE]?).getD []) }

theorem registerCallback_refused
    (refused : (m.registerCallback sa callback callingPid event since).2 = some .callbackMapSizeLimit) :
    (m.registerCallback sa callback callingPid event since).1 = m.openLocalList sa := by
  simp only [registerCallback] at refused ⊢
  split at refused
  · cases refused
  · split at refused
    · rename_i listed full
      rw [if_neg listed, if_pos full, openLocalList]
    · cases refused

theorem openLocalList_self : (m.openLocalList sa).startingAbilityMap[sa]? =
    some { m.itemAt sa with
      callbackMap := (m.itemAt sa).callbackMap.insert LOCAL_DEVICE
        (((m.itemAt sa).callbackMap[LOCAL_DEVICE]?).getD []) } := by
  simp [openLocalList, setItem]

theorem openLocalList_of_ne {id : Int} (other : id ≠ sa) :
    (m.openLocalList sa).startingAbilityMap[id]? = m.startingAbilityMap[id]? := by
  simp [openLocalList, setItem, Std.TreeMap.getElem?_insert, Ne.symm other]

/-- A list that is there is not changed by being asked for. -/
theorem same_of_listed {item : AbilityItem} (listed : item.callbackMap.contains LOCAL_DEVICE = true) :
    AbilityItem.Same item { item with
      callbackMap := item.callbackMap.insert LOCAL_DEVICE
        ((item.callbackMap[LOCAL_DEVICE]?).getD []) } := by
  refine ⟨rfl, rfl, fun deviceId => ?_⟩
  rw [Std.TreeMap.getElem?_insert]
  split
  · rename_i same
    obtain rfl : LOCAL_DEVICE = deviceId := by simpa using same
    have found : LOCAL_DEVICE ∈ item.callbackMap := Std.TreeMap.contains_iff_mem.mp listed
    rw [Std.TreeMap.getElem?_eq_some_getElem found]
    rfl
  · rfl

/-- The task that starts the ability is posted for a known item. -/
theorem addOnDemand_workHandler {procName : String} {n : Manager}
    (map : n.onDemandAbilityMap = m.onDemandAbilityMap)
    (processes : n.systemProcessMap = m.systemProcessMap) (work : n.workHandler = m.workHandler)
    (known : sa ∈ n.startingAbilityMap ↔ sa ∈ m.startingAbilityMap) :
    (n.addOnDemandSystemAbilityInfo sa procName).workHandler =
      (m.addOnDemandSystemAbilityInfo sa procName).workHandler := by
  simp only [addOnDemandSystemAbilityInfo, map, processes, known]
  split
  · exact work
  · split
    · rw [postTask, postTask, work]
    · exact work

theorem traceless_of_hasLocalList (listed : m.hasLocalList sa = true) :
    m.Traceless sa (m.openLocalList sa) := by
  obtain ⟨item, found, inside⟩ := (Option.any_eq_true ..).mp listed
  have here : m.itemAt sa = item := by rw [itemAt, found, Option.getD_some]
  have known : sa ∈ m.startingAbilityMap := by
    rw [← Std.TreeMap.isSome_getElem?_iff_mem, found]
    rfl
  constructor
  · intro id
    by_cases own : id = sa
    · subst own
      rw [openLocalList_self, found, here]
      exact .some (same_of_listed inside)
    · rw [openLocalList_of_ne own]
      cases m.startingAbilityMap[id]? with
      | none => exact .none
      | some other => exact .some (.refl other)
  · exact fun pid => rfl
  · intro procName
    refine addOnDemand_workHandler rfl rfl rfl ⟨fun _ => known, fun _ => ?_⟩
    rw [← Std.TreeMap.isSome_getElem?_iff_mem, openLocalList_self]
    rfl

theorem hasLocalList_of_traceless (traceless : m.Traceless sa (m.openLocalList sa)) :
    m.hasLocalList sa = true := by
  have same := traceless.items sa
  rw [openLocalList_self] at same
  cases found : m.startingAbilityMap[sa]? with
  | none =>
      rw [found] at same
      cases same
  | some item =>
      have here : m.itemAt sa = item := by rw [itemAt, found, Option.getD_some]
      rw [found, here] at same
      obtain ⟨same⟩ := same
      have lists := same.callbacks LOCAL_DEVICE
      rw [Std.TreeMap.getElem?_insert_self] at lists
      have listed : LOCAL_DEVICE ∈ item.callbackMap := by
        rw [← Std.TreeMap.isSome_getElem?_iff_mem, ← lists]
        rfl
      rw [hasLocalList, found]
      exact Std.TreeMap.contains_iff_mem.mpr listed

end Manager

namespace Machine

/-- The load whose callback the label refuses for the number of callbacks its caller has. -/
def rejects (x : Machine) (label : MachineLabel) : Option Loading :=
  match x.next label with
  | some (.registerCallback load) =>
      if load.isLocal ∧ (x.shared.registerCallback load.systemAbilityId load.callback
          load.request.callingPid load.request.loadEvent load.since).2 = some .callbackMapSizeLimit then
        some load
      else none
  | _ => none

/-- A refused load leaves no trace. -/
def RejectsCleanly (x : Machine) (label : MachineLabel) : Prop :=
  ∀ load, x.rejects label = some load →
    x.shared.Traceless load.systemAbilityId (x.step label).shared

/-- A load that is refused finds the list it would be added to. -/
def rejectsListed (x : Machine) (label : MachineLabel) : Bool :=
  (x.rejects label).all fun load => x.shared.hasLocalList load.systemAbilityId

variable {x : Machine} {label : MachineLabel}

theorem step_of_rejects {load : Loading} (rejected : x.rejects label = some load) :
    (x.step label).shared = x.shared.openLocalList load.systemAbilityId := by
  simp only [rejects] at rejected
  split at rejected
  · rename_i other next
    split at rejected
    · rename_i refused
      obtain rfl : other = load := Option.some.inj rejected
      obtain ⟨env, same⟩ := step_shared_of_next next
      rw [same, ← Manager.registerCallback_refused refused.2]
      simp only [Manager.exec, refused.1, if_true]
    · cases rejected
  · cases rejected

/-- In every reachable state a refused load leaves no trace exactly when the list was there; and in
every run all refused loads leave none exactly when each finds its list. -/
theorem rejected_load_is_traceless_iff (saProfiles : List SaProfile) (labels : List MachineLabel) :
    (∀ label load, (runFrom saProfiles labels).rejects label = some load →
      ((runFrom saProfiles labels).shared.Traceless load.systemAbilityId
          ((runFrom saProfiles labels).step label).shared ↔
        (runFrom saProfiles labels).shared.hasLocalList load.systemAbilityId = true)) ∧
    (Runs.Guarded step RejectsCleanly (init saProfiles) labels ↔
      Runs.Guarded step (fun x label => x.rejectsListed label = true) (init saProfiles) labels) := by
  have one {x : Machine} {label : MachineLabel} {load : Loading} (rejected : x.rejects label = some load) :
      x.shared.Traceless load.systemAbilityId (x.step label).shared ↔
        x.shared.hasLocalList load.systemAbilityId = true := by
    rw [step_of_rejects rejected]
    exact ⟨Manager.hasLocalList_of_traceless, Manager.traceless_of_hasLocalList⟩
  refine ⟨fun label load rejected => one rejected, ?_⟩
  apply Runs.guarded_iff_guarded (fun _ => True) _ (fun _ _ _ _ => trivial) labels trivial
  intro x label _
  simp only [RejectsCleanly, rejectsListed, Option.all_eq_true]
  exact forall_congr' fun load => imp_congr_right fun rejected => one rejected


/-! A caller that has used up its quota on one ability asks for another one. -/
section Full

def hostOfTwo : List SaProfile := [{ process := "host", saId := 1 }, { process := "host", saId := 2 }]

/-- The entries of client 7, one for each of its objects. -/
def entries (count : Nat) : List CallbackItem :=
  (List.range count).map fun object =>
    { callback := ⟨object, object⟩, callingPid := 7, id := object, since := 1 }

/-- Ability 1 is LOADING, its process has its starting mark, and client 7 waits with its entries. -/
def waiting (count : Nat) (queue : TaskQueue Int WorkTask) (log : List Event) : Manager :=
  { saProfiles := hostOfTwo
    startingAbilityMap := (∅ : Std.TreeMap Int AbilityItem).insert 1
      { callbackMap := (∅ : Std.TreeMap String (List CallbackItem)).insert LOCAL_DEVICE (entries count)
        event := { eventId := INTERFACE_CALL, name := "load" } }
    callbackCountMap := (∅ : Std.TreeMap Int Int).insert 7 count
    nextEntry := count
    startingProcessMap := (∅ : Std.TreeMap String Int).insert "host" 1
    workHandler := queue
    sched := { ((Scheduler.init hostOfTwo).toLoading 1).1 with log } }

/-- A load of ability 1 from its call to its end. -/
def fillOne (object : Nat) : List MachineLabel :=
  .call (.load (Scheduler.localLoad 1 7 object)) :: runs object 10

def loadOf (sa : Int) (object : Nat) : Loading :=
  { held := "host"
    systemAbilityId := sa
    callback := ⟨object, object⟩
    request := Scheduler.localLoad sa 7 object
    since := 1 }

variable {count : Nat} {queue : TaskQueue Int WorkTask} {log : List Event}

theorem entries_succ : entries (count + 1) =
    entries count ++ [{ callback := ⟨count, count⟩, callingPid := 7, id := count, since := 1 }] := by
  simp [entries, List.range_succ]

/-- A callback that is new and finds room. -/
theorem registerCallback_new {m : Manager} {sa : Int} {callback : RemoteInterface} {callingPid : Int}
    {event : OnDemandEvent} {since : Nat} {callbacks : List CallbackItem}
    (lists : ((m.itemAt sa).callbackMap[LOCAL_DEVICE]?).getD [] = callbacks)
    (fresh : (callbacks.any fun other => other.callback.object == callback.object) = false)
    (room : ¬ Quota.count m.callbackCountMap callingPid ≥ Scheduler.MAX_SUBSCRIBE_COUNT) :
    m.registerCallback sa callback callingPid event since =
      ({ m.setItem sa
          { m.itemAt sa with
            callbackMap := (m.itemAt sa).callbackMap.insert LOCAL_DEVICE
              (callbacks ++ [{ callback, callingPid, id := m.nextEntry, since }])
            event } with
        callbackCountMap := Quota.charge m.callbackCountMap callingPid
        nextEntry := m.nextEntry + 1 }, none) := by
  simp only [Manager.registerCallback, lists, fresh, if_neg room, Bool.false_eq_true, if_false]

theorem register_next (room : count < 256) :
    (waiting count queue log).registerCallback 1 ⟨count, count⟩ 7
        { eventId := INTERFACE_CALL, name := "load" } 1 = (waiting (count + 1) queue log, none) := by
  have fresh : ((entries count).any fun other => other.callback.object == count) = false := by
    simp only [entries, List.any_map, List.any_eq_false, List.mem_range, Function.comp_apply, beq_iff_eq]
    exact fun object below same => absurd same (Nat.ne_of_lt below)
  have few : ¬ Quota.count (waiting count queue log).callbackCountMap 7 ≥
      Scheduler.MAX_SUBSCRIBE_COUNT := by
    have held : Quota.count (waiting count queue log).callbackCountMap 7 = count := rfl
    have bound : (Scheduler.MAX_SUBSCRIBE_COUNT : Int) = 256 := rfl
    rw [held, bound]
    omega
  have lists : (((waiting count queue log).itemAt 1).callbackMap[LOCAL_DEVICE]?).getD [] = entries count :=
    rfl
  refine (registerCallback_new lists fresh few).trans ?_
  have next : (waiting count queue log).nextEntry = count := rfl
  rw [next, ← entries_succ]
  rfl

theorem exec_registerCallback_added {env : Env} {m n : Manager} {load : Loading}
    (isLocal : load.isLocal = true)
    (added : m.registerCallback load.systemAbilityId load.callback load.request.callingPid
      load.request.loadEvent load.since = (n, none)) :
    m.exec env (.registerCallback load) = (n, [.startingSystemProcess load]) := by
  simp only [Manager.exec, isLocal, if_true, added]

theorem fill_first : ∃ queue log, Runs.run step (init hostOfTwo) (fillOne 0) =
    Threads.Config.alone 0 (waiting 1 queue log, []) := ⟨_, _, rfl⟩

/-- The process has its mark already. -/
theorem exec_markStartingProcess_again {object : Nat} :
    (waiting count queue log).exec {} (.markStartingProcess (loadOf 1 object)) =
      (waiting count queue log,
        [.sendCheckLoadedMsg (loadOf 1 object), .finishLoad (loadOf 1 object) .errOk]) := by
  have own : (waiting count queue log).sched.ownProcessName (loadOf 1 object).systemAbilityId = "host" := rfl
  have marked : (waiting count queue log).markStartingProcess "host" (loadOf 1 object).systemAbilityId =
      none := by
    simp [Manager.markStartingProcess, waiting]
  simp only [Manager.exec, own, marked]
  rfl

open Threads.Config (solo alone)

theorem fill_next (room : count < 256) : ∃ queue' log',
    (solo managerProgram {})^[10] (waiting count queue log, [.lockForLoad (loadOf 1 count)]) =
      (waiting (count + 1) queue' log', []) := by
  let noted : List Event := .handleLoad 1 (Scheduler.localLoad 1 7 count) :: log
  have executed : (waiting count queue noted).exec {} (.registerCallback (loadOf 1 count)) =
      (waiting (count + 1) queue noted, [.startingSystemProcess (loadOf 1 count)]) :=
    exec_registerCallback_added rfl (register_next room)
  have registers : solo managerProgram {}
      (waiting count queue noted, [.registerCallback (loadOf 1 count), .unlock (.process "host")]) =
      (waiting (count + 1) queue noted,
        [.startingSystemProcess (loadOf 1 count), .unlock (.process "host")]) := by
    rw [Threads.Config.solo_of_exec rfl executed]
    rfl
  have marks : solo managerProgram {}
      (waiting (count + 1) queue noted, [.markStartingProcess (loadOf 1 count), .unlock (.process "host")]) =
      (waiting (count + 1) queue noted, [.sendCheckLoadedMsg (loadOf 1 count),
        .finishLoad (loadOf 1 count) .errOk, .unlock (.process "host")]) := by
    rw [Threads.Config.solo_of_exec rfl exec_markStartingProcess_again]
    rfl
  have parts : (solo managerProgram {})^[10] (waiting count queue log, [.lockForLoad (loadOf 1 count)]) =
      (solo managerProgram {})^[4] (solo managerProgram {} (solo managerProgram {} (solo managerProgram {}
        (waiting count queue noted, [.registerCallback (loadOf 1 count), .unlock (.process "host")])))) := rfl
  have goesOn : solo managerProgram {} (waiting (count + 1) queue noted,
      [.startingSystemProcess (loadOf 1 count), .unlock (.process "host")]) =
      (waiting (count + 1) queue noted,
        [.markStartingProcess (loadOf 1 count), .unlock (.process "host")]) := rfl
  rw [parts, registers, goesOn, marks]
  exact ⟨queue.postNamed 1 (.checkLoaded 1 "host" LOCAL_DEVICE ⟨count, count⟩),
    .doLoadSystemAbility 1 (Scheduler.localLoad 1 7 count) .errOk :: noted, rfl⟩

/-- Client 7 uses up its quota on ability 1. -/
def fill (count : Nat) : List MachineLabel := (List.range count).flatMap fillOne

theorem fill_run (room : count < 256) : ∃ queue log, Runs.run step (init hostOfTwo) (fill (count + 1)) =
    alone count (waiting (count + 1) queue log, []) := by
  induction count with
  | zero => exact fill_first
  | succ count hypothesis =>
      obtain ⟨queue, log, filled⟩ := hypothesis (by omega)
      have splits : fill (count + 1 + 1) = fill (count + 1) ++ fillOne (count + 1) := by
        simp [fill, List.range_succ]
      have called : step (alone count (waiting (count + 1) queue log, []))
          (.call (.load (Scheduler.localLoad 1 7 (count + 1)))) =
          alone (count + 1) (waiting (count + 1) queue log, [.lockForLoad (loadOf 1 (count + 1))]) :=
        Threads.Config.call_alone
      have ran : ∃ queue' log', Runs.run step
          (alone (count + 1) (waiting (count + 1) queue log, [.lockForLoad (loadOf 1 (count + 1))]))
            (runs (count + 1) 10) = alone (count + 1) (waiting (count + 1 + 1) queue' log', []) := by
        obtain ⟨queue', log', next⟩ := fill_next room
        refine ⟨queue', log', ?_⟩
        rw [← next]
        exact Threads.Config.run_alone
      rw [splits, Runs.run_append, filled, fillOne, Runs.run_cons, called]
      exact ran

/-- A load of ability 2 by the same client, up to its callback. -/
def oneMoreLoad : List MachineLabel := .call (.load (Scheduler.localLoad 2 7 256)) :: runs 256 3

theorem oneMoreLoad_run : ∃ queue log, Runs.run step (init hostOfTwo) (fill 256 ++ oneMoreLoad) =
    alone 256 (waiting 256 queue log, [.registerCallback (loadOf 2 256), .unlock (.process "host")]) := by
  obtain ⟨queue, log, filled⟩ := fill_run (show 255 < 256 by decide)
  have called : step (alone 255 (waiting 256 queue log, [])) (.call (.load (Scheduler.localLoad 2 7 256))) =
      alone 256 (waiting 256 queue log, [.lockForLoad (loadOf 2 256)]) := Threads.Config.call_alone
  have begun : (solo managerProgram {})^[3] (waiting 256 queue log, [.lockForLoad (loadOf 2 256)]) =
      (waiting 256 queue (.handleLoad 2 (Scheduler.localLoad 2 7 256) :: log),
        [.registerCallback (loadOf 2 256), .unlock (.process "host")]) := rfl
  refine ⟨queue, .handleLoad 2 (Scheduler.localLoad 2 7 256) :: log, ?_⟩
  rw [Runs.run_append, filled, oneMoreLoad, Runs.run_cons, called, ← begun]
  exact Threads.Config.run_alone

/-- The refused load leaves an item for ability 2, without a callback. -/
theorem refused_load_leaves_item :
    ¬ ∀ (saProfiles : List SaProfile) (labels : List MachineLabel) (label : MachineLabel) (load : Loading),
      (runFrom saProfiles labels).rejects label = some load →
        (runFrom saProfiles labels).shared.Traceless load.systemAbilityId
          ((runFrom saProfiles labels).step label).shared := by
  intro always
  obtain ⟨queue, log, reached⟩ := oneMoreLoad_run
  have traceless := always hostOfTwo (fill 256 ++ oneMoreLoad) (.run (some 256) {}) (loadOf 2 256)
  rw [runFrom, reached] at traceless
  have next : Machine.next (alone 256 (waiting 256 queue log,
      [.registerCallback (loadOf 2 256), .unlock (.process "host")])) (.run (some 256) {}) =
      some (.registerCallback (loadOf 2 256)) := Threads.Config.next_alone rfl
  have refused : ((waiting 256 queue log).registerCallback 2 ⟨256, 256⟩ 7
      { eventId := INTERFACE_CALL, name := "load" } 1).2 = some .callbackMapSizeLimit := rfl
  have rejected : rejects (alone 256 (waiting 256 queue log,
      [.registerCallback (loadOf 2 256), .unlock (.process "host")])) (.run (some 256) {}) =
      some (loadOf 2 256) := by
    simp only [rejects, next]
    exact if_pos ⟨rfl, refused⟩
  have unlisted : (waiting 256 queue log).hasLocalList 2 = false := rfl
  have clean := traceless rejected
  rw [step_of_rejects rejected] at clean
  have listed : (waiting 256 queue log).hasLocalList 2 = true := Manager.hasLocalList_of_traceless clean
  rw [unlisted] at listed
  cases listed

end Full

end Machine

end Samgr
