import Samgr.Manager.Sections

/-! `CheckSystemAbility` with `isExist`, from the proxy in the client over the stub to the manager.
Without an object the stub answers with an error, and `isExist` does not travel back. -/
namespace Samgr

namespace Manager

variable (m : Manager) (systemAbilityId : Int)

/-- `DoLoadOnDemandAbility` with its own look at the registry: its result and `isExist`. -/
def checkAndLoadOnDemandAbility : Manager × Bool × Bool :=
  if m.checkSystemAbility systemAbilityId = none then m.doLoadOnDemandAbility systemAbilityId
  else (m, true, true)

/-- `HandleLoadAbilityEvent(systemAbilityId, isExist)`, and the `isExist` it leaves. -/
def handleLoadAbilityEvent : Manager × Bool :=
  match m.sched.beginCheckStart systemAbilityId with
  | some answer => (m, answer.2)
  | none =>
      let started := m.checkAndLoadOnDemandAbility systemAbilityId
      let answered := started.1.sched.emit
        (.doLoadOnDemandAbility systemAbilityId started.2.1 started.2.2)
      ({ started.1 with sched := (answered.finishCheckStart systemAbilityId started.2.1).1 },
        started.2.2)

/-- `CheckSystemAbility(systemAbilityId, isExist)` of a manager: the object and `isExist`. -/
def checkSystemAbilityExist (isExist : Bool) : Manager × Option Nat × Bool :=
  if checkInputSysAbilityId systemAbilityId = false then (m, none, isExist)
  else if m.sched.isSystemAbilityUnloading systemAbilityId then (m, none, isExist)
  else
    match m.checkSystemAbility systemAbilityId with
    | none =>
        let handled := m.handleLoadAbilityEvent systemAbilityId
        (handled.1, none, handled.2)
    | some remoteObject => (m, some remoteObject, true)

/-- An ability without an object that is loading or loaded, or that its process can start now. -/
def Coming : Prop :=
  systemAbilityId ∈ m.sched.abilityIds ∧
    (m.sched.ownProcess systemAbilityId).state ≠ .notStarted ∧
    ((m.sched.ownProcess systemAbilityId).state = .started →
      (m.sched.ability systemAbilityId).state = .notLoaded →
      ((m.startingAbilityMap[systemAbilityId]?).any fun item => item.state == .starting) = true ∨
        systemAbilityId ∈ m.onDemandAbilityMap)

end Manager

/-- The codes that the stub answers with. -/
inductive StubError where
  | nullObject
  | permissionDenied
  deriving DecidableEq, Repr

/-- The manager of the user that a call is for, if there is one, as a call leaves it, with what the
call returns. -/
structure CheckAnswer where
  server : Option Manager
  remoteObject : Option Nat
  isExist : Bool
  errCode : Option StubError := none

namespace SystemAbilityManager

variable (server : Option Manager) (systemAbilityId : Int) (isExist : Bool)

/-- `CheckSystemAbility(systemAbilityId, isExist)` of the server. -/
def checkSystemAbility : CheckAnswer :=
  match server with
  | none => { server := none, remoteObject := none, isExist }
  | some m =>
      let checked := m.checkSystemAbilityExist systemAbilityId isExist
      { server := some checked.1, remoteObject := checked.2.1, isExist := checked.2.2 }

/-- `CheckSystemAbilityImmeInner`: the manager, and an error or what is written to the reply.
`permitted` stands for the two checks of the caller's permission. -/
def checkSystemAbilityImmeInner (permitted : Int → Bool) :
    Option Manager × Except StubError (Nat × Bool) :=
  if checkInputSysAbilityId systemAbilityId = false then (server, .error .nullObject)
  else if permitted systemAbilityId = false then (server, .error .permissionDenied)
  else
    let answer := checkSystemAbility server systemAbilityId isExist
    match answer.remoteObject with
    | none => (answer.server, .error .nullObject)
    | some remoteObject => (answer.server, .ok (remoteObject, answer.isExist))

/-- `SystemAbilityManagerProxy::CheckSystemAbility(systemAbilityId, isExist, errCode)`;
`getAbility` is what `LocalAbilitys` has. -/
def proxyCheckSystemAbility (getAbility : Int → Option Nat) (permitted : Int → Bool) : CheckAnswer :=
  if checkInputSysAbilityId systemAbilityId = false then { server, remoteObject := none, isExist }
  else
    match getAbility systemAbilityId with
    | some proxy => { server, remoteObject := some proxy, isExist := true }
    | none =>
        let reply := checkSystemAbilityImmeInner server systemAbilityId isExist permitted
        match reply.2 with
        | .error errCode =>
            { server := reply.1, remoteObject := none, isExist, errCode := some errCode }
        | .ok written =>
            { server := reply.1, remoteObject := some written.1, isExist := written.2 }

end SystemAbilityManager

namespace Manager

variable {m : Manager} {systemAbilityId : Int} {isExist : Bool}

/-- A request to the process for an ability that has no object yet. -/
theorem doLoadOnDemandAbility_isExist :
    (m.doLoadOnDemandAbility systemAbilityId).2.2 = true ↔
      ((m.startingAbilityMap[systemAbilityId]?).any fun item => item.state == .starting) = true ∨
        systemAbilityId ∈ m.onDemandAbilityMap := by
  rw [doLoadOnDemandAbility]
  split
  · rename_i starting
    simp [starting]
  · rename_i idle
    split
    · rename_i absent
      simp [idle, absent]
    · rename_i present
      simp only [not_not] at present
      simp [present]

/-- Without an object `isExist` says whether the ability is coming. -/
theorem handleLoadAbilityEvent_isExist (absent : m.checkSystemAbility systemAbilityId = none) :
    (m.handleLoadAbilityEvent systemAbilityId).2 = true ↔ m.Coming systemAbilityId := by
  rw [handleLoadAbilityEvent, Coming, Scheduler.beginCheckStart]
  by_cases listed : systemAbilityId ∈ m.sched.abilityIds
  · simp only [listed, not_true_eq_false, if_false, true_and]
    cases process : (m.sched.ownProcess systemAbilityId).state with
    | notStarted => simp
    | stopping => simp
    | started =>
        by_cases idle : (m.sched.ability systemAbilityId).state = .notLoaded
        · simp only [idle, if_true, checkAndLoadOnDemandAbility, absent,
            doLoadOnDemandAbility_isExist]
          simp
        · simp [idle]
  · simp [listed]

end Manager

namespace SystemAbilityManager

variable {server : Option Manager} {systemAbilityId : Int} {isExist : Bool}
  {getAbility : Int → Option Nat} {permitted : Int → Bool}

/-- What the manager answers, by the state it answers in. -/
theorem checkSystemAbility_some {m : Manager} (valid : checkInputSysAbilityId systemAbilityId = true)
    (loading : m.sched.isSystemAbilityUnloading systemAbilityId = false) :
    ((checkSystemAbility (some m) systemAbilityId isExist).remoteObject.isSome = true ↔
        systemAbilityId ∈ m.abilityMap) ∧
      ((checkSystemAbility (some m) systemAbilityId isExist).isExist = true ↔
        systemAbilityId ∈ m.abilityMap ∨ m.Coming systemAbilityId) := by
  have registered : m.checkSystemAbility systemAbilityId =
      m.abilityMap[systemAbilityId]?.map SAInfo.remoteObj := by
    rw [Manager.checkSystemAbility, if_pos valid]
  simp only [checkSystemAbility, Manager.checkSystemAbilityExist, valid, loading,
    Bool.true_eq_false, Bool.false_eq_true, if_false]
  cases found : m.checkSystemAbility systemAbilityId with
  | none =>
      have absent : systemAbilityId ∉ m.abilityMap := by
        rw [registered, Option.map_eq_none_iff] at found
        simpa using found
      simp [absent, Manager.handleLoadAbilityEvent_isExist found]
  | some remoteObject =>
      have present : systemAbilityId ∈ m.abilityMap := by
        rw [registered, Option.map_eq_some_iff] at found
        obtain ⟨info, found, -⟩ := found
        exact Std.TreeMap.mem_iff_isSome_getElem?.mpr (by simp [found])
      simp [present]

/-- The client is told what the manager answered if there is an object, and keeps its own value of
`isExist` if there is none. -/
theorem proxyCheckSystemAbility_eq (remote : getAbility systemAbilityId = none)
    (permission : permitted systemAbilityId = true) :
    let proxied := proxyCheckSystemAbility server systemAbilityId isExist getAbility permitted
    let answer := checkSystemAbility server systemAbilityId isExist
    proxied.server = answer.server ∧ proxied.remoteObject = answer.remoteObject ∧
      proxied.isExist = if answer.remoteObject.isSome then answer.isExist else isExist := by
  intro proxied answer
  by_cases valid : checkInputSysAbilityId systemAbilityId = true
  · simp only [proxied, proxyCheckSystemAbility, checkSystemAbilityImmeInner, valid, remote,
      permission, Bool.true_eq_false, if_false]
    cases found : answer.remoteObject with
    | none => simp [answer]
    | some remoteObject => simp [answer]
  · rw [Bool.not_eq_true] at valid
    cases server <;>
      simp [proxied, answer, proxyCheckSystemAbility, checkSystemAbility,
        Manager.checkSystemAbilityExist, valid]

/-- The client has the `isExist` of the server exactly if the server does not look at the ability,
or has an object to return, or the value with which the client asked is right by itself. -/
theorem client_sees_isExist_iff (remote : getAbility systemAbilityId = none)
    (permission : permitted systemAbilityId = true) :
    (proxyCheckSystemAbility server systemAbilityId isExist getAbility permitted).isExist =
        (checkSystemAbility server systemAbilityId isExist).isExist ↔
      checkInputSysAbilityId systemAbilityId = false ∨
        ∀ m, server = some m → m.sched.isSystemAbilityUnloading systemAbilityId = true ∨
          systemAbilityId ∈ m.abilityMap ∨ (isExist = true ↔ m.Coming systemAbilityId) := by
  rw [(proxyCheckSystemAbility_eq remote permission).2.2]
  by_cases valid : checkInputSysAbilityId systemAbilityId = true
  · cases server with
    | none => simp [checkSystemAbility]
    | some m =>
        cases loading : m.sched.isSystemAbilityUnloading systemAbilityId with
        | true => simp [checkSystemAbility, Manager.checkSystemAbilityExist, valid, loading]
        | false =>
            obtain ⟨object, exists_iff⟩ := @checkSystemAbility_some _ isExist _ valid loading
            by_cases present : systemAbilityId ∈ m.abilityMap
            · rw [if_pos (object.mpr present)]
              simp [present]
            · rw [if_neg fun found => present (object.mp found)]
              simp only [present, false_or] at exists_iff
              simp only [valid, Bool.true_eq_false, false_or, Option.some.injEq, forall_eq',
                loading, Bool.false_eq_true, present]
              rw [← exists_iff, Bool.eq_iff_iff]
  · rw [Bool.not_eq_true] at valid
    cases server <;> simp [checkSystemAbility, Manager.checkSystemAbilityExist, valid]

section Sample

def audio : SaProfile := { process := "audio_server", saId := 3001 }

/-- The process runs and has told that it starts its ability on demand. -/
def audioRuns : Manager :=
  { Manager.init [audio] with
    sched := (Scheduler.init [audio]).setProcess "audio_server" fun context =>
      { context with state := .started }
    systemProcessMap := (∅ : Std.TreeMap String Nat).insert "audio_server" 7
    onDemandAbilityMap := (∅ : Std.TreeMap Int String).insert 3001 "audio_server" }

theorem audio_is_coming : audioRuns.Coming 3001 :=
  ⟨by decide, by decide, fun _ _ => Or.inr (by simp [audioRuns])⟩

/-- A client that asks with `false` is left with it while the manager starts the ability. -/
theorem audio_is_not_told :
    (proxyCheckSystemAbility (some audioRuns) 3001 false (fun _ => none) fun _ => true).isExist =
        false ∧
      (checkSystemAbility (some audioRuns) 3001 false).isExist = true := by
  have answers := @checkSystemAbility_some 3001 false audioRuns (by decide) (by decide)
  have absent : (3001 : Int) ∉ audioRuns.abilityMap := Std.TreeMap.not_mem_emptyc
  refine ⟨?_, answers.2.mpr (Or.inr audio_is_coming)⟩
  rw [(proxyCheckSystemAbility_eq rfl rfl).2.2, if_neg fun found => absent (answers.1.mp found)]

/-- With `true` the client keeps what the manager says as well. -/
theorem audio_is_known :
    (proxyCheckSystemAbility (some audioRuns) 3001 true (fun _ => none) fun _ => true).isExist =
      (checkSystemAbility (some audioRuns) 3001 true).isExist :=
  (client_sees_isExist_iff rfl rfl).mpr
    (Or.inr fun _ same => Or.inr (Or.inr ⟨fun _ => Option.some.inj same ▸ audio_is_coming, fun _ => rfl⟩))

end Sample

end SystemAbilityManager

end Samgr
