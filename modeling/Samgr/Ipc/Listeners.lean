import Samgr.Ipc.Delivery

/-! What the manager tells its listeners and callbacks, on its way to their processes. A proxy in the
manager gives up on some notices, and the stub in the process of the listener checks what comes in. -/
namespace Samgr.Ipc

open Remote.Receiver

/-- What a listener or a callback is told. -/
inductive Notice where
  | onAddSystemAbility (systemAbilityId : Int32) (deviceId : String)
  | onRemoveSystemAbility (systemAbilityId : Int32) (deviceId : String)
  | onSystemProcessStarted (info : SystemProcessInfo)
  | onSystemProcessStopped (info : SystemProcessInfo)
  | onSystemProcessActivated (info : SystemProcessInfo)
  | onSystemProcessIdled (info : SystemProcessInfo)
  | onLoadSystemAbilitySuccess (systemAbilityId : Int32) (remoteObject : Option Nat)
  | onLoadSystemAbilityFail (systemAbilityId : Int32)
  | onLoadSystemAbilityFailWithCode (systemAbilityId errCode : Int32)
  | onLoadSACompleteForRemote (deviceId : String) (systemAbilityId : Int32) (remoteObject : Option Nat)
  deriving DecidableEq, Repr

inductive ListenerKind where
  | statusChange
  | processStatusChange
  | loadCallback
  deriving DecidableEq, Repr

def ListenerKind.descriptor : ListenerKind → String
  | .statusChange => "OHOS.ISystemAbilityStatusChange"
  | .processStatusChange => "OHOS.ISystemProcessStatusChange"
  | .loadCallback => "OHOS.ISystemAbilityLoadCallback"

namespace Notice

def kind : Notice → ListenerKind
  | onAddSystemAbility _ _ | onRemoveSystemAbility _ _ => .statusChange
  | onSystemProcessStarted _ | onSystemProcessStopped _ | onSystemProcessActivated _
  | onSystemProcessIdled _ => .processStatusChange
  | onLoadSystemAbilitySuccess _ _ | onLoadSystemAbilityFail _ | onLoadSystemAbilityFailWithCode _ _
  | onLoadSACompleteForRemote _ _ _ => .loadCallback

/-- The request of a notice about an ability; the proxies drop the ids that are not positive. -/
def aboutAbility (systemAbilityId : Int32) (code : UInt32) (data : IpcParcel) :
    Option (UInt32 × IpcParcel) :=
  if systemAbilityId.toInt ≤ 0 then none else some (code, data)

/-- `SystemAbilityStatusChangeProxy::SendRequestInner`. -/
def abilityChange (code : UInt32) (systemAbilityId : Int32) (deviceId : String) :
    Option (UInt32 × IpcParcel) :=
  aboutAbility systemAbilityId code [.int32 systemAbilityId, .string deviceId]

/-- `SystemProcessStatusChangeProxy::SendRequestInner`. -/
def processChange (code : UInt32) (info : SystemProcessInfo) : Option (UInt32 × IpcParcel) :=
  if info.processName = "" then none else some (code, Stub.writeProcessInfo info)

/-- What the proxy sends, if it does not give up. -/
def sent : Notice → Option (UInt32 × IpcParcel)
  | onAddSystemAbility systemAbilityId deviceId => abilityChange 1 systemAbilityId deviceId
  | onRemoveSystemAbility systemAbilityId deviceId => abilityChange 2 systemAbilityId deviceId
  | onSystemProcessStarted info => processChange 1 info
  | onSystemProcessStopped info => processChange 2 info
  | onSystemProcessActivated info => processChange 3 info
  | onSystemProcessIdled info => processChange 4 info
  | onLoadSystemAbilitySuccess systemAbilityId remoteObject =>
      match remoteObject with
      | none => none
      | some found => aboutAbility systemAbilityId 1 [.int32 systemAbilityId, .remoteObject found]
  | onLoadSystemAbilityFail systemAbilityId => aboutAbility systemAbilityId 2 [.int32 systemAbilityId]
  | onLoadSystemAbilityFailWithCode systemAbilityId errCode =>
      aboutAbility systemAbilityId 4 [.int32 systemAbilityId, .int32 errCode]
  | onLoadSACompleteForRemote deviceId systemAbilityId remoteObject =>
      aboutAbility systemAbilityId 3 (.string deviceId :: .int32 systemAbilityId ::
        match remoteObject with
        | none => [.bool false]
        | some found => [.bool true, .remoteObject found])

end Notice

namespace ListenerStub

variable (codes : ErrCodes)

/-- An ability came or went. -/
def onAbilityInner (made : Int32 → String → Notice) : IpcReceiver Notice :=
  (Stub.saId codes.nullObject codes.nullObject).andThen fun systemAbilityId =>
    (readingOr readString "").andThen fun deviceId => done (made systemAbilityId deviceId)

/-- A process has changed. -/
def onProcessInner (made : SystemProcessInfo → Notice) : IpcReceiver Notice :=
  (reading Proxy.readProcessInfoFromParcel codes.nullObject).andThen fun info => done (made info)

/-- An object that may be null. -/
def anyObject : IpcReceiver (Option Nat) := fun data =>
  .ok ((readRemoteObject data).1, (readRemoteObject data).2)

def onLoadSystemAbilitySuccessInner : IpcReceiver Notice :=
  (Stub.saId codes.invalidValue codes.invalidValue).andThen fun systemAbilityId =>
    anyObject.andThen fun remoteObject => done (.onLoadSystemAbilitySuccess systemAbilityId remoteObject)

def onLoadSystemAbilityFailInner : IpcReceiver Notice :=
  (Stub.saId codes.invalidValue codes.invalidValue).andThen fun systemAbilityId =>
    done (.onLoadSystemAbilityFail systemAbilityId)

def onLoadSystemAbilityFailWithCodeInner : IpcReceiver Notice :=
  (reading readInt32 codes.invalidValue).andThen fun systemAbilityId =>
    (reading readInt32 codes.invalidValue).andThen fun errCode =>
      (require (checkInputSysAbilityId systemAbilityId.toInt) codes.invalidValue).andThen fun _ =>
        done (.onLoadSystemAbilityFailWithCode systemAbilityId errCode)

def onLoadSACompleteForRemoteInner : IpcReceiver Notice :=
  (readingOr readString "").andThen fun deviceId =>
    (Stub.saId codes.invalidValue codes.invalidValue).andThen fun systemAbilityId =>
      (readingOr readBool false).andThen fun loaded =>
        (if loaded then anyObject else done none).andThen fun remoteObject =>
          done (.onLoadSACompleteForRemote deviceId systemAbilityId remoteObject)

/-- The handlers of the three stubs. -/
def memberFuncMap : ListenerKind → List (UInt32 × IpcReceiver Notice)
  | .statusChange =>
      [(1, onAbilityInner codes .onAddSystemAbility), (2, onAbilityInner codes .onRemoveSystemAbility)]
  | .processStatusChange =>
      [(1, onProcessInner codes .onSystemProcessStarted), (2, onProcessInner codes .onSystemProcessStopped),
        (3, onProcessInner codes .onSystemProcessActivated), (4, onProcessInner codes .onSystemProcessIdled)]
  | .loadCallback =>
      [(1, onLoadSystemAbilitySuccessInner codes), (2, onLoadSystemAbilityFailInner codes),
        (3, onLoadSACompleteForRemoteInner codes), (4, onLoadSystemAbilityFailWithCodeInner codes)]

/-- A listener hears one notice after the other. -/
abbrev hearing : Remote.Interface where
  Operation := IpcReceiver Notice
  Arguments _ := Notice
  Answer _ := Unit

def enforceInterceToken (kind : ListenerKind) : IpcReceiver Unit :=
  (readingOr readInterfaceToken "").andThen fun interfaceToken =>
    require (interfaceToken == kind.descriptor) codes.permissionDenied

def listenerStub (kind : ListenerKind) (otherwise : UInt32 → IpcParcel → Int32 × IpcParcel) :
    Remote.Stub hearing IpcValue Int32 Unit where
  opens := enforceInterceToken codes kind
  lookup code := (memberFuncMap codes kind).lookup code
  handler inner := { receive := fun _ => inner, respond := fun _ => (0, []) }
  otherwise

def hear : Remote.Service hearing Unit (List Notice) := fun _ heard _ notice => (heard ++ [notice], ())

variable {codes}

section Accepting

theorem accepts_ability (made : Int32 → String → Notice) (systemAbilityId : Int32) (deviceId : String) :
    (onAbilityInner codes made).Accepts [.int32 systemAbilityId, .string deviceId]
      (made systemAbilityId deviceId) (checkInputSysAbilityId systemAbilityId.toInt = true) := by
  refine Accepts.congr ((Stub.accepts_saId systemAbilityId).andThen
    ((accepts_readingOr (takes_string deviceId) "").andThen
      (accepts_done (made systemAbilityId deviceId)))) ?_
  simp

theorem accepts_process (made : SystemProcessInfo → Notice) (info : SystemProcessInfo) :
    (onProcessInner codes made).Accepts (Stub.writeProcessInfo info) (made info) True := by
  refine Accepts.congr ((accepts_reading (Proxy.takes_processInfo info) codes.nullObject).andThen
    (accepts_done (made info))) ?_
  simp

theorem accepts_anyObject (found : Nat) : anyObject.Accepts [.remoteObject found] (some found) True :=
  fun _ => ⟨fun _ => rfl, fun never => absurd trivial never⟩

theorem accepts_success (systemAbilityId : Int32) (found : Nat) :
    (onLoadSystemAbilitySuccessInner codes).Accepts [.int32 systemAbilityId, .remoteObject found]
      (.onLoadSystemAbilitySuccess systemAbilityId (some found))
      (checkInputSysAbilityId systemAbilityId.toInt = true) := by
  refine Accepts.congr ((Stub.accepts_saId systemAbilityId).andThen ((accepts_anyObject found).andThen
    (accepts_done (Notice.onLoadSystemAbilitySuccess systemAbilityId (some found))))) ?_
  simp

theorem accepts_fail (systemAbilityId : Int32) :
    (onLoadSystemAbilityFailInner codes).Accepts [.int32 systemAbilityId]
      (.onLoadSystemAbilityFail systemAbilityId) (checkInputSysAbilityId systemAbilityId.toInt = true) := by
  refine Accepts.congr ((Stub.accepts_saId systemAbilityId).andThen
    (accepts_done (Notice.onLoadSystemAbilityFail systemAbilityId))) ?_
  simp

theorem accepts_failWithCode (systemAbilityId errCode : Int32) :
    (onLoadSystemAbilityFailWithCodeInner codes).Accepts [.int32 systemAbilityId, .int32 errCode]
      (.onLoadSystemAbilityFailWithCode systemAbilityId errCode)
      (checkInputSysAbilityId systemAbilityId.toInt = true) := by
  refine Accepts.congr ((Stub.accepts_int32 _ systemAbilityId).andThen
    ((Stub.accepts_int32 _ errCode).andThen ((accepts_require _ _).andThen
      (accepts_done (Notice.onLoadSystemAbilityFailWithCode systemAbilityId errCode))))) ?_
  simp

theorem accepts_completeForRemote (deviceId : String) (systemAbilityId : Int32) (remoteObject : Option Nat) :
    (onLoadSACompleteForRemoteInner codes).Accepts
      (.string deviceId :: .int32 systemAbilityId ::
        match remoteObject with
        | none => [.bool false]
        | some found => [.bool true, .remoteObject found])
      (.onLoadSACompleteForRemote deviceId systemAbilityId remoteObject)
      (checkInputSysAbilityId systemAbilityId.toInt = true) := by
  have last : (done (.onLoadSACompleteForRemote deviceId systemAbilityId remoteObject) :
      IpcReceiver Notice).Accepts [] _ True := accepts_done _
  cases remoteObject with
  | none =>
      have nothing : (done none : IpcReceiver (Option Nat)).Accepts [] none True := accepts_done none
      refine Accepts.congr ((accepts_readingOr (takes_string deviceId) "").andThen
        ((Stub.accepts_saId systemAbilityId).andThen ((accepts_readingOr (takes_bool false) false).andThen
          (nothing.andThen last)))) ?_
      simp
  | some found =>
      refine Accepts.congr ((accepts_readingOr (takes_string deviceId) "").andThen
        ((Stub.accepts_saId systemAbilityId).andThen ((accepts_readingOr (takes_bool true) false).andThen
          ((accepts_anyObject found).andThen last)))) ?_
      simp

end Accepting

end ListenerStub

namespace Notice

/-- The ability that a notice is about. -/
def ability : Notice → Option Int32
  | onAddSystemAbility systemAbilityId _ | onRemoveSystemAbility systemAbilityId _
  | onLoadSystemAbilitySuccess systemAbilityId _ | onLoadSystemAbilityFail systemAbilityId
  | onLoadSystemAbilityFailWithCode systemAbilityId _
  | onLoadSACompleteForRemote _ systemAbilityId _ => some systemAbilityId
  | onSystemProcessStarted _ | onSystemProcessStopped _ | onSystemProcessActivated _
  | onSystemProcessIdled _ => none

/-- A notice that gets through: of an ability with a positive id, with its object if it was loaded, or
of a process with a name. -/
def audible : Notice → Bool
  | onAddSystemAbility systemAbilityId _ | onRemoveSystemAbility systemAbilityId _
  | onLoadSystemAbilityFail systemAbilityId | onLoadSystemAbilityFailWithCode systemAbilityId _
  | onLoadSACompleteForRemote _ systemAbilityId _ =>
      0 < systemAbilityId.toInt && checkInputSysAbilityId systemAbilityId.toInt
  | onLoadSystemAbilitySuccess systemAbilityId remoteObject =>
      0 < systemAbilityId.toInt && checkInputSysAbilityId systemAbilityId.toInt && remoteObject.isSome
  | onSystemProcessStarted info | onSystemProcessStopped info | onSystemProcessActivated info
  | onSystemProcessIdled info => info.processName != ""

/-- The request that the proxy sends. -/
def request (notice : Notice) : Option (Remote.Request IpcValue Unit) :=
  notice.sent.map fun message =>
    { caller := (), code := message.1, data := .interfaceToken notice.kind.descriptor :: message.2 }

end Notice

namespace ListenerStub

variable (codes : ErrCodes) (otherwise : UInt32 → IpcParcel → Int32 × IpcParcel)

/-- The notice that a request stands for, if it is let through. -/
def noticed (kind : ListenerKind) (request : Remote.Request IpcValue Unit) : Option Notice :=
  ((listenerStub codes kind otherwise).admitted request).map fun call => call.arguments

variable {codes otherwise}

theorem enforceInterceToken_accepts (kind : ListenerKind) :
    (enforceInterceToken codes kind).Accepts [.interfaceToken kind.descriptor] () True := by
  have equal : (kind.descriptor == kind.descriptor) = true := beq_self_eq_true _
  exact ((accepts_readingOr (takes_interfaceToken kind.descriptor) "").andThen
    (accepts_require _ _)).congr ⟨fun _ => trivial, fun _ => ⟨trivial, equal⟩⟩

theorem noticed_accepted {kind : ListenerKind} {code : UInt32} {inner : IpcReceiver Notice}
    {data : IpcParcel} {notice : Notice} {cond : Prop} [Decidable cond]
    (known : (memberFuncMap codes kind).lookup code = some inner) (accepts : inner.Accepts data notice cond) :
    noticed codes otherwise kind ⟨(), code, .interfaceToken kind.descriptor :: data⟩ =
      if cond then some notice else none := by
  have opened : enforceInterceToken codes kind (.interfaceToken kind.descriptor :: data) = .ok ((), data) :=
    (enforceInterceToken_accepts kind data).1 trivial
  by_cases now : cond
  · have taken := (accepts []).1 now
    rw [List.append_nil] at taken
    simp only [noticed, Remote.Stub.admitted, listenerStub, opened, known, taken, Option.map_some, if_pos now]
  · obtain ⟨refusal, refused⟩ := (accepts []).2 now
    rw [List.append_nil] at refused
    simp only [noticed, Remote.Stub.admitted, listenerStub, opened, known, refused, Option.map_none,
      if_neg now]

/-- An ability's notice gets through the proxy and the stub if its id is positive and in range. -/
theorem noticed_aboutAbility {kind : ListenerKind} {code : UInt32} {inner : IpcReceiver Notice}
    {systemAbilityId : Int32} {data : IpcParcel} {notice : Notice} (same : notice.kind = kind)
    (sent : notice.sent = Notice.aboutAbility systemAbilityId code data)
    (known : (memberFuncMap codes kind).lookup code = some inner)
    (accepts : inner.Accepts data notice (checkInputSysAbilityId systemAbilityId.toInt = true)) :
    notice.request.bind (noticed codes otherwise kind) =
      if 0 < systemAbilityId.toInt && checkInputSysAbilityId systemAbilityId.toInt then some notice
      else none := by
  rw [Notice.request, sent, Notice.aboutAbility, same]
  split
  · rename_i low
    rw [if_neg]
    · rfl
    · simp only [Bool.and_eq_true, decide_eq_true_eq]
      omega
  · rename_i positive
    rw [Option.map_some, Option.bind_some, noticed_accepted known accepts]
    simp only [Bool.and_eq_true, decide_eq_true_eq]
    simp only [Int.not_le.mp positive, true_and]

theorem noticed_processChange {kind : ListenerKind} {code : UInt32} {inner : IpcReceiver Notice}
    {info : SystemProcessInfo} {notice : Notice} (same : notice.kind = kind)
    (sent : notice.sent = Notice.processChange code info)
    (known : (memberFuncMap codes kind).lookup code = some inner)
    (accepts : inner.Accepts (Stub.writeProcessInfo info) notice True) :
    notice.request.bind (noticed codes otherwise kind) =
      if info.processName != "" then some notice else none := by
  rw [Notice.request, sent, Notice.processChange, same]
  by_cases named : info.processName = ""
  · simp [named]
  · rw [if_neg named, Option.map_some, Option.bind_some, noticed_accepted known accepts]
    simp [named]

/-- Exactly the audible notices get through, each as it was given to the proxy. -/
theorem noticed_request (notice : Notice) :
    notice.request.bind (noticed codes otherwise notice.kind) =
      if notice.audible then some notice else none := by
  cases notice with
  | onAddSystemAbility systemAbilityId deviceId =>
      exact noticed_aboutAbility rfl rfl rfl (accepts_ability _ systemAbilityId deviceId)
  | onRemoveSystemAbility systemAbilityId deviceId =>
      exact noticed_aboutAbility rfl rfl rfl (accepts_ability _ systemAbilityId deviceId)
  | onSystemProcessStarted info => exact noticed_processChange rfl rfl rfl (accepts_process _ info)
  | onSystemProcessStopped info => exact noticed_processChange rfl rfl rfl (accepts_process _ info)
  | onSystemProcessActivated info => exact noticed_processChange rfl rfl rfl (accepts_process _ info)
  | onSystemProcessIdled info => exact noticed_processChange rfl rfl rfl (accepts_process _ info)
  | onLoadSystemAbilitySuccess systemAbilityId remoteObject =>
      cases remoteObject with
      | none => simp [Notice.request, Notice.sent, Notice.audible]
      | some found =>
          rw [noticed_aboutAbility rfl rfl rfl (accepts_success systemAbilityId found)]
          simp [Notice.audible]
  | onLoadSystemAbilityFail systemAbilityId =>
      exact noticed_aboutAbility rfl rfl rfl (accepts_fail systemAbilityId)
  | onLoadSystemAbilityFailWithCode systemAbilityId errCode =>
      exact noticed_aboutAbility rfl rfl rfl (accepts_failWithCode systemAbilityId errCode)
  | onLoadSACompleteForRemote deviceId systemAbilityId remoteObject =>
      exact noticed_aboutAbility rfl rfl rfl (accepts_completeForRemote deviceId systemAbilityId remoteObject)

/-- What a listener has heard after some requests. -/
theorem heard_requests (kind : ListenerKind) (heard : List Notice)
    (requests : List (Remote.Request IpcValue Unit)) :
    Runs.run (fun now request => ((listenerStub codes kind otherwise).onRemoteRequest hear now request).1)
        heard requests = heard ++ requests.filterMap (noticed codes otherwise kind) := by
  induction requests generalizing heard with
  | nil => exact (List.append_nil heard).symm
  | cons request requests hypothesis =>
      rw [Runs.run_cons, Remote.Stub.onRemoteRequest_state, hypothesis, List.filterMap_cons, noticed]
      cases (listenerStub codes kind otherwise).admitted request with
      | none => rfl
      | some call => exact List.append_assoc heard [_] _

section Sound

/-- What a listener may rely on: an id that it is told of is in range. -/
def Sound (notice : Notice) : Prop :=
  ∀ systemAbilityId, notice.ability = some systemAbilityId →
    checkInputSysAbilityId systemAbilityId.toInt = true

theorem grants_ability {made : Int32 → String → Notice}
    (about : ∀ systemAbilityId deviceId, (made systemAbilityId deviceId).ability = some systemAbilityId) :
    (onAbilityInner codes made).Grants Sound := by
  refine Stub.grants_saId.andThen fun systemAbilityId inRange => (grants_any _).andThen fun deviceId _ =>
    grants_done fun id told => ?_
  rw [about] at told
  cases told
  exact inRange

theorem grants_process {made : SystemProcessInfo → Notice} (about : ∀ info, (made info).ability = none) :
    (onProcessInner codes made).Grants Sound := by
  refine (grants_any _).andThen fun info _ => grants_done fun id told => ?_
  rw [about] at told
  cases told

theorem memberFuncMap_grants {kind : ListenerKind} {code : UInt32} {inner : IpcReceiver Notice}
    (known : (code, inner) ∈ memberFuncMap codes kind) : inner.Grants Sound := by
  cases kind with
  | statusChange =>
      simp only [memberFuncMap, List.mem_cons, Prod.mk.injEq, List.not_mem_nil, or_false] at known
      rcases known with ⟨rfl, rfl⟩ | ⟨rfl, rfl⟩
      · exact grants_ability fun _ _ => rfl
      · exact grants_ability fun _ _ => rfl
  | processStatusChange =>
      simp only [memberFuncMap, List.mem_cons, Prod.mk.injEq, List.not_mem_nil, or_false] at known
      rcases known with ⟨rfl, rfl⟩ | ⟨rfl, rfl⟩ | ⟨rfl, rfl⟩ | ⟨rfl, rfl⟩
      · exact grants_process fun _ => rfl
      · exact grants_process fun _ => rfl
      · exact grants_process fun _ => rfl
      · exact grants_process fun _ => rfl
  | loadCallback =>
      simp only [memberFuncMap, List.mem_cons, Prod.mk.injEq, List.not_mem_nil, or_false] at known
      rcases known with ⟨rfl, rfl⟩ | ⟨rfl, rfl⟩ | ⟨rfl, rfl⟩ | ⟨rfl, rfl⟩
      · refine Stub.grants_saId.andThen fun id inRange => (grants_any _).andThen fun _ _ =>
          grants_done fun _ told => ?_
        cases told
        exact inRange
      · refine Stub.grants_saId.andThen fun id inRange => grants_done fun _ told => ?_
        cases told
        exact inRange
      · refine (grants_any _).andThen fun _ _ => Stub.grants_saId.andThen fun id inRange =>
          (grants_any _).andThen fun _ _ => (grants_any _).andThen fun _ _ => grants_done fun _ told => ?_
        cases told
        exact inRange
      · refine (grants_any _).andThen fun id _ => (grants_any _).andThen fun _ _ =>
          (grants_require _ _).andThen fun _ inRange => grants_done fun _ told => ?_
        cases told
        exact inRange

theorem noticed_sound {kind : ListenerKind} {request : Remote.Request IpcValue Unit} {notice : Notice}
    (passed : noticed codes otherwise kind request = some notice) : Sound notice := by
  obtain ⟨call, admitted, rfl⟩ := Option.map_eq_some_iff.mp passed
  have grants : ∀ code inner, (memberFuncMap codes kind).lookup code = some inner →
      ∀ _ : Unit, inner.Grants Sound := by
    intro code inner found _
    obtain ⟨before, after, split, _⟩ := List.lookup_eq_some_iff.mp found
    have known : (code, inner) ∈ memberFuncMap codes kind := by
      rw [split]
      exact List.mem_append_right before List.mem_cons_self
    exact memberFuncMap_grants known
  have granted := @Remote.Stub.admitted_grants _ _ _ _ _ (listenerStub codes kind otherwise)
    (fun _ _ notice => Sound notice) grants _ _ admitted
  exact granted.2.2

end Sound

/-- Of the notices that the manager gives to the proxy of a listener, the listener hears the audible
ones, in their order and each as it was given; and whatever else is sent to it, it never hears of an
ability with an invalid id. -/
theorem listener_hears_audible_notices (codes : ErrCodes)
    (otherwise : UInt32 → IpcParcel → Int32 × IpcParcel) (kind : ListenerKind) (heard : List Notice) :
    let hears := Runs.run
      (fun now request => ((listenerStub codes kind otherwise).onRemoteRequest hear now request).1) heard
    (∀ notices : List Notice, (∀ notice ∈ notices, notice.kind = kind) →
      hears (notices.filterMap Notice.request) = heard ++ notices.filter Notice.audible) ∧
      ∀ requests, ∃ new, hears requests = heard ++ new ∧ ∀ notice ∈ new, Sound notice := by
  intro hears
  constructor
  · intro notices same
    rw [show hears _ = _ from heard_requests kind heard _, List.filterMap_filterMap]
    congr 1
    rw [← List.filterMap_eq_filter]
    refine List.filterMap_congr fun notice member => ?_
    rw [← same notice member, noticed_request]
    rfl
  · intro requests
    refine ⟨_, heard_requests kind heard requests, fun notice member => ?_⟩
    obtain ⟨request, _, passed⟩ := List.mem_filterMap.mp member
    exact noticed_sound passed

end ListenerStub

end Samgr.Ipc
