import Samgr.Ipc.Access
import Samgr.Ipc.Proxy

/-! Proxy and stub together. What the proxy writes, the handler of the same operation takes, and what
the handler answers, the proxy gives to its caller. -/
namespace Samgr.Ipc

open Remote.Receiver

namespace Operation

/-- Events can be written if their numbers and ids fit. -/
def EventsFit (events : List SystemAbilityOnDemandEvent) : Prop :=
  events.length < 2 ^ 31 ∧ ∀ event ∈ events, OnDemandEventToParcel.Fits event

def ArgumentsFit : (op : Operation) → op.Arguments → Prop
  | .updateOnDemandPolicy, (_, _, events) => EventsFit events
  | _, _ => True

/-- Lists that can be counted; those of an extension hold abilities. -/
def AnswerFits : (op : Operation) → op.Answer → Prop
  | .getRunningSystemProcess, (_, infos) => infos.length < 2 ^ 31
  | .getLruIdleSystemAbilityProc, (_, infos) => infos.length < 2 ^ 31
  | .getExtensionRunningSaList, (_, saList) => saList.length ≤ LAST_SYS_ABILITY_ID
  | .getRunningSaExtensionInfoList, (_, infos) => infos.length ≤ LAST_SYS_ABILITY_ID
  | .getOnDemandPolicy, (_, events) => EventsFit events
  | _, _ => True

end Operation

/-- A failed call fills nothing. -/
def filled {Info : Type} (answer : Int32 × Info) : Int32 × Option Info :=
  (answer.1, if answer.1 = 0 then some answer.2 else none)

/-- `isExist` comes back with an object only. -/
def existSeen (isExist : Bool) : Option Nat × Bool → Option Nat × Bool
  | (none, _) => (none, isExist)
  | (some remoteObject, exist) => (some remoteObject, exist)

/-- What the caller of the proxy sees of an answer of the manager. -/
def Operation.seen (codes : ErrCodes) : (op : Operation) → op.Arguments → op.Answer → op.Seen
  | .getSystemAbility, _, answer | .checkSystemAbility, _, answer | .checkRemtSystemAbility, _, answer
  | .getLocalAbilityManagerProxy, _, answer | .getSystemAbilityWithUserId, _, answer
  | .checkSystemAbilityWithUserId, _, answer | .getLocalAbilityManagerProxyWithUserId, _, answer => answer
  | .checkSystemAbilityImme, (_, isExist), answer => existSeen isExist answer
  | .checkSystemAbilityByUserId, (_, isExist, _), answer => existSeen isExist answer
  | .listSystemAbility, _, answer => answer
  | .getRunningSystemProcess, _, answer => filled answer
  | .getOnDemandReasonExtraData, _, answer =>
      if answer.2.isSome then answer else (codes.flattenObject.1, none)
  | .getOnDemandPolicy, _, answer => filled answer
  | .getSystemProcessInfo, _, answer | .getSystemProcessInfoWithUserId, _, answer => filled answer
  | .getOnDemandSystemAbilityIds, _, answer | .getExtensionSaIds, _, answer => filled answer
  | .getExtensionRunningSaList, _, answer => filled answer
  | .getRunningSaExtensionInfoList, _, answer => filled answer
  | .getCommonEventExtraDataIdlist, _, answer => filled answer
  | .getLruIdleSystemAbilityProc, _, answer => filled answer
  | .unloadAllIdleSystemAbility, _, _ | .unloadProcess, _, _ | .setSamgrIpcPrior, _, _
  | .onUserStateChanged, _, _ => (0 : Int32)
  | .addSystemAbility, _, answer | .removeSystemAbility, _, answer | .subsSystemAbility, _, answer
  | .loadSystemAbility, _, answer | .loadRemoteSystemAbility, _, answer
  | .addOndemandSystemAbility, _, answer | .unSubsSystemAbility, _, answer | .addSystemProcess, _, answer
  | .unloadSystemAbility, _, answer | .cancelUnloadSystemAbility, _, answer
  | .subscribeSystemProcess, _, answer | .unSubscribeSystemProcess, _, answer
  | .updateOnDemandPolicy, _, answer | .sendStrategy, _, answer | .subscribeLowMemSystemProcess, _, answer
  | .unSubscribeLowMemSystemProcess, _, answer | .onStartSystemAbilityFail, _, answer
  | .loadSystemAbilityWithUserId, _, answer | .subsSystemAbilityWithUserId, _, answer
  | .unSubsSystemAbilityWithUserId, _, answer | .subscribeSystemProcessWithUserId, _, answer
  | .unSubscribeSystemProcessWithUserId, _, answer => answer

namespace Proxy

variable {codes : ErrCodes} {sizes : IpcSizes} {Arguments Info : Type}

section Answers

theorem codeCall_respondCode (code : UInt32) (marshal : Arguments → Except Int32 IpcParcel)
    (arguments : Arguments) (result : Int32) :
    (codeCall codes code marshal).returned arguments (Stub.respondCode result) = result := by
  by_cases fine : result = 0
  · rw [fine]
    exact (codeCall codes code marshal).returned_fine rfl arguments [IpcValue.int32 0]
  · exact (codeCall codes code marshal).returned_failed rfl arguments fine [IpcValue.int32 result]

theorem codeCall_respondResult (code : UInt32) (marshal : Arguments → Except Int32 IpcParcel)
    (arguments : Arguments) (result : Int32) :
    (codeCall codes code marshal).returned arguments (Stub.respondResult result) = result := rfl

theorem objectCall_respondObject (config : StubConfig) (code : UInt32)
    (marshal : Arguments → Except (Option Nat) IpcParcel) (arguments : Arguments) (answer : Option Nat) :
    (objectCall code marshal).returned arguments (Stub.respondObject config answer) = answer := by
  cases answer with
  | none => exact Remote.Sender.returned_failed _ rfl arguments config.codes.nullObject.2 []
  | some remoteObject => rfl

theorem existCall_respondObjectAndExist (config : StubConfig) (code : UInt32) (isExist : Arguments → Bool)
    (marshal : Arguments → Except (Option Nat × Bool) IpcParcel) (arguments : Arguments)
    (answer : Option Nat × Bool) :
    (existCall code isExist marshal).returned arguments (Stub.respondObjectAndExist config answer) =
      existSeen (isExist arguments) answer := by
  rcases answer with ⟨found, exist⟩
  cases found with
  | none => exact Remote.Sender.returned_failed _ rfl arguments config.codes.nullObject.2 []
  | some remoteObject => rfl

variable {read : IpcReader Info} {write : Info → IpcParcel} {answer : Int32 × Info}

/-- A result that is not fine is all there is to read. -/
theorem readInfo_failed (wrong : answer.1 ≠ 0) :
    readInfo codes read [.int32 answer.1] = filled answer := by
  rw [filled, if_neg wrong, readInfo]
  show (if answer.1 ≠ 0 then _ else _) = _
  rw [if_pos wrong]

/-- What was written behind a fine result is read there. -/
theorem readInfo_written (takes : read.Takes (write answer.2) answer.2) (fine : answer.1 = 0) :
    readInfo codes read (.int32 answer.1 :: write answer.2) = filled answer := by
  have taken := takes []
  rw [List.append_nil] at taken
  rw [filled, if_pos fine, fine, readInfo]
  show (if (0 : Int32) ≠ 0 then _ else _) = _
  rw [if_neg (not_not.mpr rfl), taken]

variable (code : UInt32) (marshal : Arguments → Except (Int32 × Option Info) IpcParcel)
  (arguments : Arguments)

theorem infoCall_respondInfo (takes : answer.1 = 0 → read.Takes (write answer.2) answer.2) :
    (infoCall codes code read marshal).returned arguments (Stub.respondInfo write answer) =
      filled answer := by
  rw [Stub.respondInfo]
  split
  · rename_i wrong
    rw [Remote.Sender.returned_fine _ rfl]
    exact readInfo_failed wrong
  · rename_i fine
    rw [Remote.Sender.returned_fine _ rfl]
    exact readInfo_written (takes (not_not.mp fine)) (not_not.mp fine)

theorem infoCall_respondInfoOrBoth (takes : answer.1 = 0 → read.Takes (write answer.2) answer.2) :
    (infoCall codes code read marshal).returned arguments (Stub.respondInfoOrBoth write answer) =
      filled answer := by
  rw [Stub.respondInfoOrBoth]
  split
  · rename_i wrong
    rw [Remote.Sender.returned_failed _ rfl _ wrong, filled, if_neg wrong]
    rfl
  · rename_i fine
    rw [Remote.Sender.returned_fine _ rfl]
    exact readInfo_written (takes (not_not.mp fine)) (not_not.mp fine)

theorem infoCall_respondInfoOrCode (takes : answer.1 = 0 → read.Takes (write answer.2) answer.2) :
    (infoCall codes code read marshal).returned arguments (Stub.respondInfoOrCode write answer) =
      filled answer := by
  rw [Stub.respondInfoOrCode]
  split
  · rename_i wrong
    rw [Remote.Sender.returned_failed _ rfl _ wrong, filled, if_neg wrong]
    rfl
  · rename_i fine
    rw [Remote.Sender.returned_fine _ rfl]
    exact readInfo_written (takes (not_not.mp fine)) (not_not.mp fine)

end Answers

section Infos

theorem takes_processInfo (info : SystemProcessInfo) :
    readProcessInfoFromParcel.Takes (Stub.writeProcessInfo info) info :=
  (takes_string info.processName).andThen ((takes_int32 info.pid).andThen
    ((takes_int32 info.uid).andThen (Fifo.Reader.takes_done info)))

theorem takes_idleProcessInfo (info : IdleProcessInfo) :
    readIdleProcessInfo.Takes (Stub.writeIdleProcessInfo info) info :=
  (takes_int32 info.pid).andThen ((takes_string16 info.processName).andThen
    ((takes_int64 info.lastIdleTime).andThen (Fifo.Reader.takes_done info)))

theorem takes_saExtensionInfo (info : SaExtensionInfo) :
    readSaExtensionInfo.Takes (Stub.writeSaExtensionInfo info) info :=
  (takes_int32 info.saId).andThen ((takes_remoteObject info.processObj).andThen
    (Fifo.Reader.takes_done info))

theorem takes_systemProcesses {infos : List SystemProcessInfo} (few : infos.length < 2 ^ 31) :
    (readSystemProcessFromParcel sizes).Takes (writeCounted Stub.writeProcessInfo infos) infos :=
  takes_readCounted few (fun info _ => takes_processInfo info) fun rest =>
    invalidSize_written sizes few (fun _ _ => List.cons_ne_nil _ _) rest

theorem takes_idleProcesses {infos : List IdleProcessInfo} (few : infos.length < 2 ^ 31) :
    (readIdleProcessInfoFromParcel sizes).Takes (writeCounted Stub.writeIdleProcessInfo infos) infos :=
  takes_readCounted few (fun info _ => takes_idleProcessInfo info) fun rest =>
    invalidSize_written sizes few (fun _ _ => List.cons_ne_nil _ _) rest

/-- No more entries than there are abilities are never too many. -/
theorem tooManyAbilities_written {count : Nat} (few : count ≤ LAST_SYS_ABILITY_ID) (rest : IpcParcel) :
    count < 2 ^ 31 ∧ tooManyAbilities (Int32.ofNat count) rest = false := by
  have small : count < 2 ^ 31 := by
    rw [LAST_SYS_ABILITY_ID] at few
    omega
  have number : (Int32.ofNat count).toInt = count := OnDemandEventToParcel.toInt_ofNat small
  refine ⟨small, ?_⟩
  rw [tooManyAbilities, number, decide_eq_false_iff_not]
  omega

theorem takes_saList {saList : List Nat} (few : saList.length ≤ LAST_SYS_ABILITY_ID) :
    readSaList.Takes (writeCounted (fun remoteObject => [.remoteObject remoteObject]) saList) saList :=
  takes_readCounted (tooManyAbilities_written few []).1 (fun _ _ => takes_readAs rfl) fun _ =>
    (tooManyAbilities_written few _).2

theorem takes_saExtensionInfos {infos : List SaExtensionInfo} (few : infos.length ≤ LAST_SYS_ABILITY_ID) :
    readSaExtensionInfoList.Takes (writeCounted Stub.writeSaExtensionInfo infos) infos :=
  takes_readCounted (tooManyAbilities_written few []).1 (fun info _ => takes_saExtensionInfo info)
    fun _ => (tooManyAbilities_written few _).2

end Infos

section Table

variable {config : StubConfig}

theorem listSystemAbilities_answer (dumpFlags : UInt32) (names : List String) :
    listSystemAbilities.returned dumpFlags ((Stub.listSystemAbilityInner config).respond names) = names := by
  cases names with
  | nil =>
      show (if config.codes.invalidValue.1 ≠ 0 then _ else _) = _
      rw [if_pos config.codes.invalidValue.2]
  | cons name names => rfl

theorem getOnDemandReasonExtraData_answer (extraDataId : Int64)
    (answer : Int32 × Option OnDemandReasonExtraData) :
    (getOnDemandReasonExtraData config.codes).returned extraDataId
        ((Stub.getOnDemandReasonExtraDataInner config).respond answer) =
      if answer.2.isSome then answer else (config.codes.flattenObject.1, none) := by
  rcases answer with ⟨result, extraData⟩
  cases extraData with
  | none => exact Remote.Sender.returned_failed _ rfl extraDataId config.codes.flattenObject.2 _
  | some extraData => rfl

theorem getOnDemandPolicy_answer (arguments : Int32 × Int32)
    {answer : Int32 × List SystemAbilityOnDemandEvent} (fits : Operation.EventsFit answer.2) :
    (getOnDemandPolicy config.codes sizes).returned arguments
        ((Stub.getOnDemandPolicyInner config).respond answer) = filled answer := by
  by_cases fine : answer.1 = 0
  · exact readInfo_written (takes_readEvents sizes fits.1 fits.2) fine
  · show readInfo config.codes _ (.int32 answer.1 :: _) = _
    rw [filled, if_neg fine, readInfo]
    show (if answer.1 ≠ 0 then _ else _) = _
    rw [if_pos fine]

/-- The caller of the proxy sees what the manager has answered. -/
theorem outer_answer {op : Operation} {sender : IpcSender op}
    (known : outer config.codes sizes op = some sender) (arguments : op.Arguments) (answer : op.Answer)
    (fits : op.AnswerFits answer) :
    sender.returned arguments ((Stub.inner config sizes op).respond answer) =
      op.seen config.codes arguments answer := by
  cases op with
  | getSystemAbility => cases known
  | checkSystemAbility | checkRemtSystemAbility | getLocalAbilityManagerProxy | getSystemAbilityWithUserId
  | checkSystemAbilityWithUserId | getLocalAbilityManagerProxyWithUserId =>
      cases known
      exact objectCall_respondObject config _ _ _ _
  | checkSystemAbilityImme | checkSystemAbilityByUserId =>
      cases known
      exact existCall_respondObjectAndExist config _ _ _ _ _
  | listSystemAbility =>
      cases known
      exact listSystemAbilities_answer arguments answer
  | getRunningSystemProcess =>
      cases known
      exact infoCall_respondInfo _ _ _ fun _ => takes_systemProcesses fits
  | getSystemProcessInfo | getSystemProcessInfoWithUserId =>
      cases known
      exact infoCall_respondInfo _ _ _ fun _ => takes_processInfo _
  | getOnDemandReasonExtraData =>
      cases known
      exact getOnDemandReasonExtraData_answer arguments answer
  | getOnDemandPolicy =>
      cases known
      exact getOnDemandPolicy_answer arguments fits
  | getOnDemandSystemAbilityIds | getExtensionSaIds =>
      cases known
      exact infoCall_respondInfoOrCode _ _ _ fun _ => takes_readAs rfl
  | getExtensionRunningSaList =>
      cases known
      exact infoCall_respondInfoOrCode _ _ _ fun _ => takes_saList fits
  | getRunningSaExtensionInfoList =>
      cases known
      exact infoCall_respondInfoOrBoth _ _ _ fun _ => takes_saExtensionInfos fits
  | getCommonEventExtraDataIdlist =>
      cases known
      exact infoCall_respondInfoOrBoth _ _ _ fun _ => takes_readAs rfl
  | getLruIdleSystemAbilityProc =>
      cases known
      exact infoCall_respondInfoOrBoth _ _ _ fun _ => takes_idleProcesses fits
  | unloadAllIdleSystemAbility | unloadProcess | setSamgrIpcPrior | onUserStateChanged =>
      cases known
      rfl
  | updateOnDemandPolicy | sendStrategy =>
      cases known
      exact codeCall_respondResult _ _ _ _
  | addSystemAbility | removeSystemAbility | subsSystemAbility | loadSystemAbility
  | loadRemoteSystemAbility | addOndemandSystemAbility | unSubsSystemAbility | addSystemProcess
  | unloadSystemAbility | cancelUnloadSystemAbility | subscribeSystemProcess | unSubscribeSystemProcess
  | subscribeLowMemSystemProcess | unSubscribeLowMemSystemProcess | onStartSystemAbilityFail
  | loadSystemAbilityWithUserId | subsSystemAbilityWithUserId | unSubsSystemAbilityWithUserId
  | subscribeSystemProcessWithUserId | unSubscribeSystemProcessWithUserId =>
      cases known
      exact codeCall_respondCode _ _ _ _

end Table

end Proxy

namespace Stub

variable {config : StubConfig} {caller : Caller}

section Checks

variable {missing invalid : Remote.Refusal Int32}

theorem accepts_int32 (refusal : Remote.Refusal Int32) (value : Int32) :
    Accepts (reading readInt32 refusal) [.int32 value] value True :=
  accepts_reading (takes_int32 value) refusal

theorem accepts_saId (systemAbilityId : Int32) :
    (saId missing invalid).Accepts [.int32 systemAbilityId] systemAbilityId
      (True ∧ checkInputSysAbilityId systemAbilityId.toInt = true ∧ True) :=
  (accepts_int32 missing systemAbilityId).andThen
    ((accepts_require _ invalid).andThen (accepts_done systemAbilityId))

theorem accepts_object (found : Nat) :
    (object missing).Accepts [.remoteObject found] (some found) (True ∧ True) :=
  (accepts_reading (takes_remoteObject found) missing).andThen (accepts_done _)

theorem accepts_interfaceObject (interface : ClientInterface) (found : Nat) :
    (interfaceObject config interface missing).Accepts [.remoteObject found] (some found)
      (True ∧ config.ifaceCast interface found = true ∧ True) :=
  (accepts_reading (takes_remoteObject found) missing).andThen ((accepts_require _ missing).andThen (accepts_done _))

theorem accepts_nonEmpty {read : IpcReader String} {value : IpcValue} {text : String}
    (takes : read.Takes [value] text) :
    (nonEmpty read missing).Accepts [value] text (True ∧ (text != "") = true ∧ True) :=
  (accepts_readingOr takes "").andThen ((accepts_require _ missing).andThen (accepts_done text))

theorem accepts_checkPengLai (systemAbilityId : Int32) :
    (checkPengLai config caller systemAbilityId).Accepts [] ()
      ((Right.launch systemAbilityId).heldBy config caller = true) := by
  rw [checkPengLai, heldBy_launch]
  exact accepts_require _ _

theorem accepts_saIdToGet (systemAbilityId : Int32) :
    (saIdToGet config caller).Accepts [.int32 systemAbilityId] systemAbilityId
      (checkInputSysAbilityId systemAbilityId.toInt = true ∧ MayGet config caller systemAbilityId) := by
  refine ((accepts_saId systemAbilityId).andThen ((accepts_checkPengLai systemAbilityId).andThen
    ((accepts_require (caller.getServiceCheck systemAbilityId) _).andThen
      (accepts_done systemAbilityId)))).of_grants grants_saIdToGet ?_
  rintro ⟨inRange, launch, get⟩
  exact ⟨⟨trivial, inRange, trivial⟩, launch, get, trivial⟩

theorem accepts_loadSACheck (systemAbilityId : Int32) :
    (loadSACheck config caller systemAbilityId).Accepts [] ()
      (checkInputSysAbilityId systemAbilityId.toInt = true ∧ MayGet config caller systemAbilityId) :=
  (accepts_require _ _).andThen ((accepts_checkPengLai systemAbilityId).andThen (accepts_require _ _))

theorem accepts_loadRemoteSACheck (systemAbilityId : Int32) :
    (loadRemoteSACheck config caller systemAbilityId).Accepts [] ()
      (checkInputSysAbilityId systemAbilityId.toInt = true ∧
        (Right.launch systemAbilityId).heldBy config caller = true ∧
          (Right.getRemote systemAbilityId).heldBy config caller = true) :=
  (accepts_require _ _).andThen ((accepts_checkPengLai systemAbilityId).andThen (accepts_require _ _))

theorem accepts_unmarshalingSaExtraProp (extraProp : SAExtraProp) :
    (unmarshalingSaExtraProp config).Accepts (Proxy.marshalSAExtraProp extraProp) extraProp
      (True ∧ True ∧ decide (0 ≤ extraProp.dumpFlags.toInt32.toInt) = true ∧ True ∧ True ∧ True) := by
  have back : { extraProp with dumpFlags := extraProp.dumpFlags.toInt32.toUInt32 } = extraProp := by simp
  exact (accepts_reading (takes_bool extraProp.isDistributed) _).andThen
    ((accepts_int32 _ extraProp.dumpFlags.toInt32).andThen ((accepts_require _ _).andThen
      ((accepts_readingOr (takes_string16 extraProp.capability) "").andThen
        ((accepts_readingOr (takes_string16 extraProp.permission) "").andThen
          (back ▸ accepts_done _)))))

end Checks

section Rights

variable {op : Operation} {arguments : op.Arguments}

theorem held_first (right : Right) {later : List Right} (asked : op.rights arguments = right :: later)
    (admits : Admits config caller op arguments) : right.heldBy config caller = true := by
  refine admits.rights right ?_
  rw [asked]
  exact List.mem_cons_self

theorem held_second {first : Right} (right : Right) {later : List Right}
    (asked : op.rights arguments = first :: right :: later) (admits : Admits config caller op arguments) :
    right.heldBy config caller = true := by
  refine admits.rights right ?_
  rw [asked]
  exact List.mem_cons_of_mem _ List.mem_cons_self

theorem mayGet {systemAbilityId : Int32} {later : List Right}
    (asked : op.rights arguments = .launch systemAbilityId :: .get systemAbilityId :: later)
    (admits : Admits config caller op arguments) : MayGet config caller systemAbilityId :=
  ⟨held_first _ asked admits, held_second _ asked admits⟩

end Rights

section Handlers

variable {sizes : IpcSizes}

theorem checked_ok {Seen : Type} {condition : Bool} {refused : Seen} {data sent : IpcParcel}
    (went : Proxy.checked condition refused data = .ok sent) : condition = true ∧ data = sent := by
  rw [Proxy.checked] at went
  split at went
  · cases went
    exact ⟨by assumption, rfl⟩
  · cases went

/-- What a handler takes from data of its own kind is what its caller may ask for. -/
theorem accepts_admitted {op : Operation} {data : IpcParcel} {arguments : op.Arguments} {cond : Prop}
    (accepts : ((inner config sizes op).receive caller).Accepts data arguments cond)
    (enough : Admits config caller op arguments → cond) :
    ((inner config sizes op).receive caller).Accepts data arguments (Admits config caller op arguments) :=
  accepts.of_grants (inner_grants caller op) enough

theorem accepts_abilityListener (systemAbilityId : Int32) (found : Nat) :
    ((abilityListenerInner config).receive caller).Accepts [.int32 systemAbilityId, .remoteObject found]
      (systemAbilityId, some found)
      ((True ∧ checkInputSysAbilityId systemAbilityId.toInt = true ∧ True) ∧
        (True ∧ config.ifaceCast .systemAbilityStatusChange found = true ∧ True) ∧ True) :=
  (accepts_saId systemAbilityId).andThen ((accepts_interfaceObject _ found).andThen (accepts_done _))

theorem accepts_userAbilityListener (systemAbilityId : Int32) (found : Nat) (userId : Int32) :
    ((userAbilityListenerInner config).receive caller).Accepts
      [.int32 systemAbilityId, .remoteObject found, .int32 userId] (systemAbilityId, some found, userId)
      ((True ∧ checkInputSysAbilityId systemAbilityId.toInt = true ∧ True) ∧
        (True ∧ config.ifaceCast .systemAbilityStatusChange found = true ∧ True) ∧ True ∧ True) :=
  (accepts_saId systemAbilityId).andThen ((accepts_interfaceObject _ found).andThen
    ((accepts_int32 _ userId).andThen (accepts_done _)))

theorem accepts_processListener (found : Nat) :
    ((processListenerInner config).receive caller).Accepts [.remoteObject found] (some found)
      (caller.canRequest = true ∧ True ∧ config.ifaceCast .systemProcessStatusChange found = true ∧ True) :=
  (accepts_require _ _).andThen (accepts_interfaceObject _ found)

theorem accepts_userProcessListener (found : Nat) (userId : Int32) :
    ((userProcessListenerInner config).receive caller).Accepts [.remoteObject found, .int32 userId]
      (some found, userId) (caller.canRequest = true ∧
        (True ∧ config.ifaceCast .systemProcessStatusChange found = true ∧ True) ∧ True ∧ True) :=
  (accepts_require _ _).andThen ((accepts_interfaceObject _ found).andThen
    ((accepts_int32 _ userId).andThen (accepts_done _)))

theorem accepts_userLookup (systemAbilityId userId : Int32) :
    ((userLookupInner config).receive caller).Accepts [.int32 systemAbilityId, .int32 userId]
      (systemAbilityId, userId)
      ((checkInputSysAbilityId systemAbilityId.toInt = true ∧ MayGet config caller systemAbilityId) ∧
        True ∧ True) :=
  (accepts_saIdToGet systemAbilityId).andThen ((accepts_int32 _ userId).andThen (accepts_done _))

theorem accepts_addSystemAbility (systemAbilityId : Int32) (found : Nat) (extraProp : SAExtraProp) :
    ((addSystemAbilityInner config).receive caller).Accepts
      (.int32 systemAbilityId :: .remoteObject found :: Proxy.marshalSAExtraProp extraProp)
      (systemAbilityId, some found, extraProp)
      (Admits config caller .addSystemAbility (systemAbilityId, some found, extraProp)) := by
  refine Accepts.of_grants ((accepts_require caller.canRequest _).andThen
    ((accepts_saId systemAbilityId).andThen
      ((accepts_require (caller.addServiceCheck systemAbilityId) _).andThen ((accepts_object found).andThen
        ((accepts_unmarshalingSaExtraProp extraProp).andThen
          ((accepts_require (!extraProp.isDistributed || caller.addRemoteServiceCheck systemAbilityId) _).andThen
            (accepts_done _)))))))
    grants_addSystemAbility ?_
  intro admits
  have valid := admits.valid
  simp only [Operation.valid, Bool.and_eq_true, Option.isSome_some, Bool.and_true] at valid
  refine ⟨held_first .nativeToken rfl admits, ⟨trivial, valid.1, trivial⟩,
    held_second (.add systemAbilityId) rfl admits, ⟨trivial, trivial⟩,
    ⟨trivial, trivial, valid.2, trivial, trivial, trivial⟩, ?_, trivial⟩
  cases distributed : extraProp.isDistributed with
  | false => rfl
  | true =>
      have asked : Right.addRemote systemAbilityId ∈
          Operation.rights .addSystemAbility (systemAbilityId, some found, extraProp) := by
        simp [Operation.rights, distributed]
      exact admits.rights _ asked

theorem accepts_events (arguments : Int32 × Int32 × List SystemAbilityOnDemandEvent)
    (fits : Operation.EventsFit arguments.2.2) :
    ((reading (readEvents sizes) config.codes.flattenObject).andThen fun events =>
      done (arguments.1, arguments.2.1, events)).Accepts (writeEvents arguments.2.2) arguments
        (True ∧ True) := by
  have taken : ((reading (readEvents sizes) config.codes.flattenObject).andThen fun events =>
      done (arguments.1, arguments.2.1, events)).Accepts (writeEvents arguments.2.2 ++ []) arguments
        (True ∧ True) :=
    (accepts_reading (takes_readEvents sizes fits.1 fits.2) _).andThen (accepts_done arguments)
  rw [List.append_nil] at taken
  exact taken

/-- What the proxy writes, the handler of the operation takes, if the caller may ask for it. -/
theorem inner_accepts {op : Operation} {sender : IpcSender op}
    (known : Proxy.outer config.codes sizes op = some sender) {arguments : op.Arguments} {data : IpcParcel}
    (fits : op.ArgumentsFit arguments) (sent : sender.marshal arguments = .ok data) (caller : Caller) :
    ((inner config sizes op).receive caller).Accepts data arguments (Admits config caller op arguments) := by
  cases op with
  | getSystemAbility => cases known
  | checkSystemAbility =>
      cases known
      obtain ⟨inRange, rfl⟩ := checked_ok sent
      exact accepts_admitted (accepts_saIdToGet arguments) fun admits => ⟨inRange, mayGet rfl admits⟩
  | getSystemAbilityWithUserId | checkSystemAbilityWithUserId =>
      cases known
      obtain ⟨inRange, rfl⟩ := checked_ok sent
      exact accepts_admitted (accepts_userLookup arguments.1 arguments.2) fun admits =>
        ⟨⟨inRange, mayGet rfl admits⟩, trivial, trivial⟩
  | checkSystemAbilityImme =>
      cases known
      obtain ⟨inRange, rfl⟩ := checked_ok sent
      exact accepts_admitted ((accepts_saIdToGet arguments.1).andThen
        ((accepts_reading (takes_bool arguments.2) _).andThen (accepts_done _))) fun admits =>
          ⟨⟨inRange, mayGet rfl admits⟩, trivial, trivial⟩
  | checkSystemAbilityByUserId =>
      cases known
      obtain ⟨inRange, rfl⟩ := checked_ok sent
      exact accepts_admitted ((accepts_saIdToGet arguments.1).andThen
        ((accepts_reading (takes_bool arguments.2.1) _).andThen
          ((accepts_int32 _ arguments.2.2).andThen (accepts_done _)))) fun admits =>
            ⟨⟨inRange, mayGet rfl admits⟩, trivial, trivial, trivial⟩
  | checkRemtSystemAbility =>
      cases known
      obtain ⟨named, rfl⟩ := checked_ok sent
      have inRange := (Bool.and_eq_true_iff.mp named).1
      exact accepts_admitted ((accepts_require caller.canRequest _).andThen
        ((accepts_saId arguments.1).andThen ((accepts_checkPengLai arguments.1).andThen
          ((accepts_require (caller.getRemoteServiceCheck arguments.1) _).andThen
            ((accepts_reading (takes_string arguments.2) _).andThen (accepts_done _)))))) fun admits =>
              ⟨held_first .nativeToken rfl admits, ⟨trivial, inRange, trivial⟩,
                held_second (.launch arguments.1) rfl admits,
                admits.rights (.getRemote arguments.1) (List.mem_cons_of_mem _ (List.mem_cons_of_mem _
                  List.mem_cons_self)), trivial, trivial⟩
  | addSystemAbility =>
      cases known
      obtain ⟨systemAbilityId, ability, extraProp⟩ := arguments
      simp only [Proxy.addSystemAbility, Proxy.codeCall] at sent
      split at sent
      · obtain ⟨there, rfl⟩ := checked_ok sent
        obtain ⟨found, rfl⟩ := Option.isSome_iff_exists.mp there
        exact accepts_addSystemAbility systemAbilityId found extraProp
      · cases sent
  | addSystemProcess =>
      cases known
      obtain ⟨procName, procObject⟩ := arguments
      simp only [Proxy.addSystemProcess, Proxy.codeCall] at sent
      split at sent
      · rename_i named
        obtain ⟨there, rfl⟩ := checked_ok sent
        obtain ⟨found, rfl⟩ := Option.isSome_iff_exists.mp there
        exact accepts_admitted ((accepts_require caller.canRequest _).andThen
          ((accepts_nonEmpty (takes_string16 procName)).andThen
            ((accepts_object found).andThen (accepts_done _)))) fun admits =>
              ⟨held_first .nativeToken rfl admits, ⟨trivial, named, trivial⟩, ⟨trivial, trivial⟩, trivial⟩
      · cases sent
  | removeSystemAbility =>
      cases known
      obtain ⟨inRange, rfl⟩ := checked_ok sent
      exact accepts_admitted ((accepts_require caller.canRequest _).andThen
        ((accepts_saId arguments).andThen ((accepts_require (caller.addServiceCheck arguments) _).andThen
          (accepts_done _)))) fun admits =>
            ⟨held_first .nativeToken rfl admits, ⟨trivial, inRange, trivial⟩,
              held_second (.add arguments) rfl admits, trivial⟩
  | addOndemandSystemAbility =>
      cases known
      obtain ⟨named, rfl⟩ := checked_ok sent
      have both := Bool.and_eq_true_iff.mp named
      exact accepts_admitted ((accepts_require caller.canRequest _).andThen
        ((accepts_saId arguments.1).andThen ((accepts_require (caller.addServiceCheck arguments.1) _).andThen
          ((accepts_nonEmpty (takes_string16 arguments.2)).andThen (accepts_done _))))) fun admits =>
            ⟨held_first .nativeToken rfl admits, ⟨trivial, both.1, trivial⟩,
              held_second (.add arguments.1) rfl admits, ⟨trivial, both.2, trivial⟩, trivial⟩
  | listSystemAbility =>
      cases known
      cases sent
      have back : (UInt32.toInt32 arguments).toUInt32 = arguments := by simp
      exact accepts_admitted ((accepts_require caller.canRequest _).andThen
        ((accepts_require caller.listServiceCheck _).andThen
          ((accepts_int32 _ (UInt32.toInt32 arguments)).andThen (back ▸ accepts_done _)))) fun admits =>
            ⟨held_first .nativeToken rfl admits, held_second .list rfl admits, trivial, trivial⟩
  | subsSystemAbility | unSubsSystemAbility =>
      cases known
      obtain ⟨systemAbilityId, listener⟩ := arguments
      obtain ⟨given, rfl⟩ := checked_ok sent
      have both := Bool.and_eq_true_iff.mp given
      obtain ⟨found, rfl⟩ := Option.isSome_iff_exists.mp both.2
      exact accepts_admitted (accepts_abilityListener systemAbilityId found) fun admits =>
        ⟨⟨trivial, both.1, trivial⟩, ⟨trivial, admits.castable, trivial⟩, trivial⟩
  | subsSystemAbilityWithUserId | unSubsSystemAbilityWithUserId =>
      cases known
      obtain ⟨systemAbilityId, listener, userId⟩ := arguments
      obtain ⟨given, rfl⟩ := checked_ok sent
      have both := Bool.and_eq_true_iff.mp given
      obtain ⟨found, rfl⟩ := Option.isSome_iff_exists.mp both.2
      exact accepts_admitted (accepts_userAbilityListener systemAbilityId found userId) fun admits =>
        ⟨⟨trivial, both.1, trivial⟩, ⟨trivial, admits.castable, trivial⟩, trivial, trivial⟩
  | loadSystemAbility =>
      cases known
      obtain ⟨systemAbilityId, callback⟩ := arguments
      obtain ⟨given, rfl⟩ := checked_ok sent
      have both := Bool.and_eq_true_iff.mp given
      obtain ⟨found, rfl⟩ := Option.isSome_iff_exists.mp both.2
      exact accepts_admitted ((accepts_int32 _ systemAbilityId).andThen
        ((accepts_loadSACheck systemAbilityId).andThen
          ((accepts_interfaceObject _ found).andThen (accepts_done _)))) fun admits =>
            ⟨trivial, ⟨both.1, mayGet rfl admits⟩, ⟨trivial, admits.castable, trivial⟩, trivial⟩
  | loadSystemAbilityWithUserId =>
      cases known
      obtain ⟨systemAbilityId, callback, userId⟩ := arguments
      obtain ⟨given, rfl⟩ := checked_ok sent
      have both := Bool.and_eq_true_iff.mp given
      obtain ⟨found, rfl⟩ := Option.isSome_iff_exists.mp both.2
      exact accepts_admitted ((accepts_int32 _ systemAbilityId).andThen
        ((accepts_loadSACheck systemAbilityId).andThen ((accepts_interfaceObject _ found).andThen
          ((accepts_int32 _ userId).andThen (accepts_done _))))) fun admits =>
            ⟨trivial, ⟨both.1, mayGet rfl admits⟩, ⟨trivial, admits.castable, trivial⟩, trivial, trivial⟩
  | loadRemoteSystemAbility =>
      cases known
      obtain ⟨systemAbilityId, deviceId, callback⟩ := arguments
      obtain ⟨given, rfl⟩ := checked_ok sent
      have both := Bool.and_eq_true_iff.mp given
      have named := Bool.and_eq_true_iff.mp both.1
      obtain ⟨found, rfl⟩ := Option.isSome_iff_exists.mp both.2
      exact accepts_admitted ((accepts_int32 _ systemAbilityId).andThen
        ((accepts_loadRemoteSACheck systemAbilityId).andThen
          ((accepts_nonEmpty (takes_string deviceId)).andThen
            ((accepts_interfaceObject _ found).andThen (accepts_done _))))) fun admits =>
              ⟨trivial, ⟨named.1, held_first (.launch systemAbilityId) rfl admits,
                held_second (.getRemote systemAbilityId) rfl admits⟩, ⟨trivial, named.2, trivial⟩,
                ⟨trivial, admits.castable, trivial⟩, trivial⟩
  | unloadSystemAbility | cancelUnloadSystemAbility =>
      cases known
      obtain ⟨inRange, rfl⟩ := checked_ok sent
      exact accepts_admitted (accepts_saId arguments) fun _ => ⟨trivial, inRange, trivial⟩
  | unloadAllIdleSystemAbility | getOnDemandSystemAbilityIds =>
      cases known
      cases sent
      exact accepts_admitted (accepts_done ()) fun _ => trivial
  | unloadProcess =>
      cases known
      cases sent
      exact accepts_admitted ((accepts_require (caller.checkCallerProcess "memmgrservice") _).andThen
        (accepts_reading (takes_string16Vector arguments) _)) fun admits =>
          ⟨held_first (.process "memmgrservice") rfl admits, trivial⟩
  | getLruIdleSystemAbilityProc =>
      cases known
      cases sent
      exact accepts_admitted (accepts_require (caller.checkCallerProcess "memmgrservice") _) fun admits =>
        held_first (.process "memmgrservice") rfl admits
  | setSamgrIpcPrior =>
      cases known
      cases sent
      exact accepts_admitted ((accepts_require (caller.checkCallerProcess "resource_schedule_service") _).andThen
        (accepts_reading (takes_bool arguments) _)) fun admits =>
          ⟨held_first (.process "resource_schedule_service") rfl admits, trivial⟩
  | onUserStateChanged =>
      cases known
      cases sent
      exact accepts_admitted ((accepts_require (caller.checkCallerProcess "accountmgr") _).andThen
        ((accepts_int32 _ arguments.1).andThen ((accepts_int32 _ arguments.2).andThen
          ((accepts_require _ _).andThen (accepts_done _))))) fun admits =>
            ⟨held_first (.process "accountmgr") rfl admits, trivial, trivial, admits.valid, trivial⟩
  | getRunningSystemProcess =>
      cases known
      cases sent
      exact accepts_admitted (accepts_require caller.canRequest _) fun admits =>
        held_first .nativeToken rfl admits
  | subscribeSystemProcess | unSubscribeSystemProcess | subscribeLowMemSystemProcess
  | unSubscribeLowMemSystemProcess =>
      cases known
      obtain ⟨there, rfl⟩ := checked_ok sent
      obtain ⟨found, rfl⟩ := Option.isSome_iff_exists.mp there
      exact accepts_admitted (accepts_processListener found) fun admits =>
        ⟨held_first .nativeToken rfl admits, trivial, admits.castable, trivial⟩
  | subscribeSystemProcessWithUserId | unSubscribeSystemProcessWithUserId =>
      cases known
      obtain ⟨listener, userId⟩ := arguments
      obtain ⟨there, rfl⟩ := checked_ok sent
      obtain ⟨found, rfl⟩ := Option.isSome_iff_exists.mp there
      exact accepts_admitted (accepts_userProcessListener found userId) fun admits =>
        ⟨held_first .nativeToken rfl admits, ⟨trivial, admits.castable, trivial⟩, trivial, trivial⟩
  | getOnDemandReasonExtraData =>
      cases known
      cases sent
      exact accepts_admitted ((accepts_require caller.canRequest _).andThen
        (accepts_reading (takes_int64 arguments) _)) fun admits =>
          ⟨held_first .nativeToken rfl admits, trivial⟩
  | getOnDemandPolicy =>
      cases known
      cases sent
      exact accepts_admitted ((accepts_require caller.canRequest _).andThen
        ((accepts_int32 _ arguments.1).andThen ((accepts_int32 _ arguments.2).andThen
          (accepts_done _)))) fun admits =>
            ⟨held_first .nativeToken rfl admits, trivial, trivial, trivial⟩
  | updateOnDemandPolicy =>
      cases known
      cases sent
      exact accepts_admitted ((accepts_require caller.canRequest _).andThen
        ((accepts_int32 _ arguments.1).andThen ((accepts_int32 _ arguments.2.1).andThen
          (accepts_events arguments fits)))) fun admits =>
            ⟨held_first .nativeToken rfl admits, trivial, trivial, trivial, trivial⟩
  | getSystemProcessInfo =>
      cases known
      cases sent
      exact accepts_admitted ((accepts_require caller.canRequest _).andThen (accepts_saId arguments))
        fun admits => ⟨held_first .nativeToken rfl admits, trivial, admits.valid, trivial⟩
  | getSystemProcessInfoWithUserId =>
      cases known
      obtain ⟨inRange, rfl⟩ := checked_ok sent
      exact accepts_admitted ((accepts_require caller.canRequest _).andThen
        ((accepts_saId arguments.1).andThen ((accepts_int32 _ arguments.2).andThen (accepts_done _))))
          fun admits => ⟨held_first .nativeToken rfl admits, ⟨trivial, inRange, trivial⟩, trivial, trivial⟩
  | getCommonEventExtraDataIdlist =>
      cases known
      cases sent
      exact accepts_admitted ((accepts_require caller.canRequest _).andThen
        ((accepts_saId arguments.1).andThen ((accepts_reading (takes_string arguments.2) _).andThen
          (accepts_done _)))) fun admits =>
            ⟨held_first .nativeToken rfl admits, ⟨trivial, admits.valid, trivial⟩, trivial, trivial⟩
  | sendStrategy =>
      cases known
      cases sent
      exact accepts_admitted ((accepts_require caller.canRequest _).andThen
        ((accepts_int32 _ arguments.1).andThen
          ((accepts_reading (takes_int32Vector arguments.2.1) _).andThen
            ((accepts_int32 _ arguments.2.2.1).andThen
              ((accepts_reading (takes_string arguments.2.2.2) _).andThen (accepts_done _))))))
                fun admits =>
                  ⟨held_first .nativeToken rfl admits, trivial, trivial, trivial, trivial, trivial⟩
  | getExtensionSaIds | getExtensionRunningSaList =>
      cases known
      cases sent
      exact accepts_admitted ((accepts_require caller.canRequest _).andThen
        (accepts_reading (takes_string arguments) _)) fun admits =>
          ⟨held_first .nativeToken rfl admits, trivial⟩
  | getRunningSaExtensionInfoList =>
      cases known
      cases sent
      exact accepts_admitted ((accepts_require (caller.checkPermission EXT_TRANSACTION_PERMISSION) _).andThen
        (accepts_reading (takes_string arguments) _)) fun admits =>
          ⟨held_first (.permission EXT_TRANSACTION_PERMISSION) rfl admits, trivial⟩
  | onStartSystemAbilityFail =>
      cases known
      obtain ⟨inRange, rfl⟩ := checked_ok sent
      exact accepts_admitted ((accepts_require caller.canRequest _).andThen
        ((accepts_int32 _ arguments.1).andThen ((accepts_int32 _ arguments.2).andThen
          ((accepts_require _ _).andThen (accepts_done _))))) fun admits =>
            ⟨held_first .nativeToken rfl admits, trivial, trivial, inRange, trivial⟩
  | getLocalAbilityManagerProxy =>
      cases known
      obtain ⟨inRange, rfl⟩ := checked_ok sent
      exact accepts_admitted ((accepts_require (caller.checkPermission PERMISSION_SVC) _).andThen
        (accepts_saId arguments)) fun admits =>
          ⟨held_first (.permission PERMISSION_SVC) rfl admits, trivial, inRange, trivial⟩
  | getLocalAbilityManagerProxyWithUserId =>
      cases known
      obtain ⟨inRange, rfl⟩ := checked_ok sent
      exact accepts_admitted ((accepts_require (caller.checkPermission PERMISSION_SVC) _).andThen
        ((accepts_saId arguments.1).andThen ((accepts_int32 _ arguments.2).andThen (accepts_done _))))
          fun admits => ⟨held_first (.permission PERMISSION_SVC) rfl admits, ⟨trivial, inRange, trivial⟩,
            trivial, trivial⟩

end Handlers

end Stub

section Calls

/-- The code of a call is the code of its handler. -/
theorem Proxy.outer_code {codes : ErrCodes} {sizes : IpcSizes} {op : Operation} {sender : IpcSender op}
    (known : Proxy.outer codes sizes op = some sender) :
    Stub.memberFuncMap.lookup sender.code = some op := by
  cases op <;> cases known <;> rfl

theorem checked_error {Seen : Type} {condition : Bool} {refused seen : Seen} {data : IpcParcel}
    (kept : Proxy.checked condition refused data = .error seen) : condition = false := by
  rw [Proxy.checked] at kept
  split at kept
  · cases kept
  · exact Bool.eq_false_of_not_eq_true ‹_›

/-- What the proxy refuses itself, the stub would refuse too; only the empty name of a device is let
through by the stub. -/
theorem Proxy.outer_refuses {codes : ErrCodes} {sizes : IpcSizes} {op : Operation} {sender : IpcSender op}
    (known : Proxy.outer codes sizes op = some sender) {arguments : op.Arguments} {seen : op.Seen}
    (kept : sender.marshal arguments = .error seen) (other : op ≠ .checkRemtSystemAbility) :
    op.valid arguments = false := by
  cases op with
  | getSystemAbility => cases known
  | checkRemtSystemAbility => exact absurd rfl other
  | addSystemAbility =>
      cases known
      obtain ⟨systemAbilityId, ability, extraProp⟩ := arguments
      simp only [Proxy.addSystemAbility, Proxy.codeCall] at kept
      split at kept
      · have missing := checked_error kept
        simp only [Operation.valid, missing, Bool.and_false, Bool.false_and]
      · rename_i outside
        rw [Operation.valid, Bool.eq_false_of_not_eq_true outside]
        rfl
  | addSystemProcess =>
      cases known
      obtain ⟨procName, procObject⟩ := arguments
      simp only [Proxy.addSystemProcess, Proxy.codeCall] at kept
      split at kept
      · have missing := checked_error kept
        simp only [Operation.valid, missing, Bool.and_false]
      · rename_i unnamed
        rw [Operation.valid, Bool.eq_false_of_not_eq_true unnamed]
        rfl
  | checkSystemAbility | checkSystemAbilityImme | removeSystemAbility | unloadSystemAbility
  | cancelUnloadSystemAbility | getLocalAbilityManagerProxy | getSystemAbilityWithUserId
  | checkSystemAbilityWithUserId | checkSystemAbilityByUserId | getSystemProcessInfoWithUserId
  | getLocalAbilityManagerProxyWithUserId | onStartSystemAbilityFail | addOndemandSystemAbility
  | subsSystemAbility | unSubsSystemAbility | loadSystemAbility | subsSystemAbilityWithUserId
  | unSubsSystemAbilityWithUserId | loadSystemAbilityWithUserId | loadRemoteSystemAbility
  | subscribeSystemProcess | unSubscribeSystemProcess | subscribeLowMemSystemProcess
  | unSubscribeLowMemSystemProcess | subscribeSystemProcessWithUserId
  | unSubscribeSystemProcessWithUserId =>
      cases known
      exact checked_error kept
  | listSystemAbility | unloadAllIdleSystemAbility | unloadProcess | setSamgrIpcPrior | onUserStateChanged
  | getLruIdleSystemAbilityProc | getSystemProcessInfo | getRunningSystemProcess
  | getOnDemandReasonExtraData | getOnDemandPolicy | updateOnDemandPolicy | getOnDemandSystemAbilityIds
  | sendStrategy | getExtensionSaIds | getExtensionRunningSaList | getRunningSaExtensionInfoList
  | getCommonEventExtraDataIdlist =>
      cases known
      cases kept

theorem Stub.enforceInterceToken_accepts (config : StubConfig) :
    (Stub.enforceInterceToken config).Accepts interfaceToken () True := by
  have equal : (SAMANAGER_INTERFACE_TOKEN == SAMANAGER_INTERFACE_TOKEN) = true := beq_self_eq_true _
  exact ((accepts_readingOr (takes_interfaceToken SAMANAGER_INTERFACE_TOKEN) "").andThen
    (accepts_require _ _)).congr ⟨fun _ => trivial, fun _ => ⟨trivial, equal⟩⟩

variable {State : Type} {config : StubConfig} {sizes : IpcSizes}
  {otherwise : UInt32 → IpcParcel → Int32 × IpcParcel}

theorem matched {op : Operation} {sender : IpcSender op}
    (known : Proxy.outer config.codes sizes op = some sender) :
    Remote.Matched (Stub.systemAbilityManagerStub config sizes otherwise) interfaceToken op sender
      op.ArgumentsFit fun caller arguments => Admits config caller op arguments where
  opens := Stub.enforceInterceToken_accepts config
  code := Proxy.outer_code known
  accepts _ _ fits sent caller := Stub.inner_accepts known fits sent caller

/-- A call that is refused comes back as the failure of its sender, if anything comes back. -/
theorem Proxy.outer_refused {op : Operation} {sender : IpcSender op}
    (known : Proxy.outer config.codes sizes op = some sender) (arguments : op.Arguments)
    (refusal : Remote.Refusal Int32) :
    sender.returned arguments (refusal.1, []) = op.unheard.getD (sender.failed arguments refusal.1) := by
  cases op with
  | getSystemAbility => cases known
  | unloadAllIdleSystemAbility | unloadProcess | setSamgrIpcPrior | onUserStateChanged =>
      cases known
      rfl
  | _ =>
      cases known
      exact Remote.Sender.returned_failed _ rfl arguments refusal.2 []

/-- A call that fails changes nothing of what the process provides. -/
theorem Proxy.localAbilitysAfter_failed {op : Operation} {sender : IpcSender op}
    (known : Proxy.outer config.codes sizes op = some sender) (localAbilitys : Std.TreeMap Int Nat)
    (arguments : op.Arguments) (refusal : Remote.Refusal Int32) :
    Proxy.localAbilitysAfter localAbilitys op arguments
      (op.unheard.getD (sender.failed arguments refusal.1)) = localAbilitys := by
  cases op with
  | addSystemAbility =>
      cases known
      obtain ⟨systemAbilityId, ability, extraProp⟩ := arguments
      cases ability with
      | none => rfl
      | some ability => exact if_neg refusal.2
  | removeSystemAbility =>
      cases known
      exact if_neg refusal.2
  | _ => rfl

theorem Proxy.localAbilitysAfter_error {op : Operation} {sender : IpcSender op}
    (known : Proxy.outer config.codes sizes op = some sender) (localAbilitys : Std.TreeMap Int Nat)
    {arguments : op.Arguments} {seen : op.Seen} (refused : sender.marshal arguments = .error seen) :
    Proxy.localAbilitysAfter localAbilitys op arguments seen = localAbilitys := by
  cases op with
  | addSystemAbility =>
      cases known
      obtain ⟨systemAbilityId, ability, extraProp⟩ := arguments
      cases ability with
      | none => rfl
      | some ability =>
          simp only [addSystemAbility, codeCall, checked, Option.isSome_some, if_true] at refused
          split at refused
          · cases refused
          · cases refused
            exact if_neg config.codes.invalidValue.2
  | removeSystemAbility =>
      cases known
      simp only [removeSystemAbility, abilityCall, codeCall, checked] at refused
      split at refused
      · cases refused
      · cases refused
        exact if_neg config.codes.invalidValue.2
  | _ => rfl

/-- An ability that the process provides itself is not asked for. Another call that the proxy does not
refuse reaches the manager exactly if its caller may make it. The manager then gets the very operation and
arguments, and the caller its answer; a call that is refused leaves the manager and what the process
provides as they were, and its caller sees the failure, if it hears of it at all. The proxy refuses only
arguments that the stub would refuse. -/
theorem proxy_calls_reach_manager (config : StubConfig) (sizes : IpcSizes)
    (otherwise : UInt32 → IpcParcel → Int32 × IpcParcel)
    (service : Remote.Service systemAbilityManager Caller State) {op : Operation} {sender : IpcSender op}
    (known : Proxy.outer config.codes sizes op = some sender) (localAbilitys : Std.TreeMap Int Nat)
    (caller : Caller) (state : State) (arguments : op.Arguments) (fits : op.ArgumentsFit arguments) :
    let called := Proxy.call localAbilitys (Stub.systemAbilityManagerStub config sizes otherwise) service
      sender caller state arguments
    let answer := (service caller state op arguments).2
    match Proxy.answeredLocally localAbilitys op arguments, sender.marshal arguments with
    | some seen, _ => called = (state, localAbilitys, seen)
    | none, .error seen =>
        called = (state, localAbilitys, seen) ∧ (op ≠ .checkRemtSystemAbility → op.valid arguments = false)
    | none, .ok _ =>
        (Admits config caller op arguments →
          called.1 = (service caller state op arguments).1 ∧
            called.2.1 = Proxy.localAbilitysAfter localAbilitys op arguments called.2.2 ∧
              (op.AnswerFits answer → called.2.2 = op.seen config.codes arguments answer)) ∧
          (¬ Admits config caller op arguments →
            ∃ refusal : Remote.Refusal Int32, called =
              (state, localAbilitys, op.unheard.getD (sender.failed arguments refusal.1))) := by
  intro called answer
  cases held : Proxy.answeredLocally localAbilitys op arguments with
  | some seen =>
      have shape : called = (state, Proxy.localAbilitysAfter localAbilitys op arguments seen, seen) := by
        simp only [called, Proxy.call, held]
      have kept : Proxy.localAbilitysAfter localAbilitys op arguments seen = localAbilitys := by
        cases op <;> first | rfl | cases held
      rw [shape, kept]
  | none =>
      have shape : called =
          let sent := sender.call (Stub.systemAbilityManagerStub config sizes otherwise) service interfaceToken
            caller state arguments
          (sent.1, Proxy.localAbilitysAfter localAbilitys op arguments sent.2, sent.2) := by
        simp only [called, Proxy.call, held]
      cases sent : sender.marshal arguments with
      | error seen =>
          refine ⟨?_, Proxy.outer_refuses known sent⟩
          rw [shape]
          simp only [Remote.Sender.call, sent, Proxy.localAbilitysAfter_error known localAbilitys sent]
      | ok data =>
          have fit := @matched config sizes otherwise op sender known
          constructor
          · intro admits
            have performed := fit.call_permitted service fits sent admits state
            rw [shape, performed]
            exact ⟨rfl, rfl, fun answerFits => Proxy.outer_answer known arguments _ answerFits⟩
          · intro never
            obtain ⟨refusal, refused⟩ := fit.call_refused service fits sent never state
            refine ⟨refusal, ?_⟩
            rw [shape, refused]
            simp only [Proxy.outer_refused known, Proxy.localAbilitysAfter_failed known localAbilitys]

def someCodes : ErrCodes where
  nullObject := ⟨-61, by decide⟩
  flattenObject := ⟨-62, by decide⟩
  invalidValue := ⟨-22, by decide⟩
  permissionDenied := ⟨-13, by decide⟩

instance (op : Operation) : Inhabited op.Answer := by cases op <;> infer_instance

/-- A manager that counts what it is asked and answers every registration with zero. -/
def countsCalls : Remote.Service systemAbilityManager Caller Nat := fun _ count _ _ =>
  (count + 1, default)

/-- A native process that may register the ability 3001 and no other. -/
def nativeCaller : Caller where
  isNativeToken := true
  addServiceCheck systemAbilityId := systemAbilityId == 3001

def nativeConfig : StubConfig := { codes := someCodes }

/-- The process registers an ability with the counting manager. -/
def nativeRegisters (systemAbilityId : Int32) : Nat × Std.TreeMap Int Nat × Int32 :=
  Proxy.call ∅ (Stub.systemAbilityManagerStub nativeConfig ⟨fun _ => 4, fun _ => by decide⟩ fun _ _ => (1, []))
    countsCalls (Proxy.addSystemAbility someCodes) nativeCaller 0 (systemAbilityId, some 7, ⟨false, 1, "", ""⟩)

/-- Its own ability it can register, and has it then itself; another one not. -/
theorem native_registers_its_own :
    (nativeRegisters 3001).1 = 1 ∧ (nativeRegisters 3001).2.1[(3001 : Int)]? = some 7 ∧
      (nativeRegisters 3002).1 = 0 ∧ (nativeRegisters 3002).2.1.isEmpty = true := by
  have delivered (systemAbilityId : Int32) := @proxy_calls_reach_manager Nat nativeConfig
    ⟨fun _ => 4, fun _ => by decide⟩ (fun _ _ => (1, [])) countsCalls .addSystemAbility _ rfl ∅ nativeCaller 0
    (systemAbilityId, some 7, ⟨false, 1, "", ""⟩) trivial
  have own : Admits nativeConfig nativeCaller .addSystemAbility (3001, some 7, ⟨false, 1, "", ""⟩) :=
    ⟨by decide, by decide, rfl⟩
  have other : ¬ Admits nativeConfig nativeCaller .addSystemAbility (3002, some 7, ⟨false, 1, "", ""⟩) :=
    fun admits => absurd (Stub.held_second (.add 3002) rfl admits) (by decide)
  obtain ⟨counted, noted, answered⟩ := (delivered 3001).1 own
  obtain ⟨refusal, refused⟩ := (delivered 3002).2 other
  refine ⟨counted, ?_, congrArg Prod.fst refused, ?_⟩
  · have table : (nativeRegisters 3001).2.1 =
        Proxy.localAbilitysAfter ∅ .addSystemAbility (3001, some 7, ⟨false, 1, "", ""⟩)
          (nativeRegisters 3001).2.2 := noted
    have code : (nativeRegisters 3001).2.2 = 0 := answered trivial
    rw [table, code]
    decide
  · have table : (nativeRegisters 3002).2.1 = ∅ := congrArg (fun called => called.2.1) refused
    rw [table]
    rfl

end Calls

end Samgr.Ipc
