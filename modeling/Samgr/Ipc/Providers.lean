import Samgr.Facade.Provider
import Samgr.Ipc.Isolation

/-! The facade of the calls of the providers, and the facade of all calls. With the managers of the
first, the second does to each of them what the first does. -/
namespace Samgr.Ipc

/-- The provider's call that an operation is, with an object that is there. -/
def providerCall : (op : Operation) → op.Arguments → Option ProviderCall
  | .addSystemProcess, (procName, some procObject) => some (.addSystemProcess procName procObject)
  | .addSystemAbility, (saId, some ability, extraProp) =>
      some (.addSystemAbility saId.toInt ability extraProp.isDistributed)
  | .removeSystemAbility, saId => some (.removeSystemAbility saId.toInt)
  | .addOndemandSystemAbility, (saId, procName) =>
      some (.addOnDemandSystemAbilityInfo saId.toInt procName)
  | .unloadSystemAbility, saId => some (.unloadSystemAbility saId.toInt)
  | .cancelUnloadSystemAbility, saId => some (.cancelUnloadSystemAbility saId.toInt)
  | .updateOnDemandPolicy, (saId, type, events) =>
      some (.updateOnDemandPolicy saId.toInt (if type = 0 then .startPolicy else .stopPolicy)
        (events.map convertToOnDemandEvent))
  | .onStartSystemAbilityFail, (saId, errCode) =>
      some (.onStartSystemAbilityFail saId.toInt errCode.toInt)
  | _, _ => none

/-- The answer that is a code and nothing else. -/
def Operation.ofCode (code : Int32) : (op : Operation) → op.Answer
  | .addSystemProcess | .addSystemAbility | .removeSystemAbility | .addOndemandSystemAbility
  | .unloadSystemAbility | .cancelUnloadSystemAbility | .updateOnDemandPolicy
  | .onStartSystemAbilityFail => code
  | _ => default

variable (contextOf : Caller → CallContext) (number : ErrCode → Int32)

/-- What a manager does with an operation that is no provider's call: of those, only look-ups are asked
for. -/
def lookUp (owner : ManagerInstance) : (op : Operation) → op.Arguments → op.Answer
  | .checkSystemAbility, saId => owner.manager.checkSystemAbility saId.toInt
  | _, _ => default

/-- The managers as far as the calls of the providers go. -/
def providers : Managers ManagerInstance where
  perform _ caller owner op arguments :=
    match providerCall op arguments with
    | none => (owner, lookUp owner op arguments)
    | some call =>
        let done := owner.perform (contextOf caller) call
        (done.1, op.ofCode (number done.2))
  performLooked _ caller owner targetObject op arguments :=
    match providerCall op arguments with
    | some (.onStartSystemAbilityFail saId errCode) =>
        let done := owner.onStartSystemAbilityFail (contextOf caller) targetObject saId errCode
        (done.1, op.ofCode (number done.2))
    | _ => (owner, default)
  looks _ _ owner op arguments looks := by
    cases op with
    | getRunningSystemProcess | getExtensionRunningSaList | getRunningSaExtensionInfoList
    | getLruIdleSystemAbilityProc => rfl
    | _ => cases looks

/-- The managers of the one facade are those of the other. -/
structure Routes (f : Facade) (router : Router ManagerInstance) : Prop where
  ids : router.users.multiInstanceSaIds = f.multiInstanceSaIds
  foreground : router.users.foregroundUserId = f.foregroundUserId
  stopping : ∀ userId, router.users.isUserStopping userId = (f.stoppingManagers userId).isSome
  base : router.managers .base = some f.base
  users : ∀ userId, router.managers (.user userId) = f.multiUserManagers userId
  leaving : ∀ userId, router.managers (.stopping userId) = f.stoppingManagers userId

/-- The numbers of the codes that the facade answers with itself. -/
structure Numbered (codes : ErrCodes) (number : ErrCode → Int32) : Prop where
  notAllowed : number Samgr.SA_OPERATION_NOT_ALLOWED = SA_OPERATION_NOT_ALLOWED_CODE
  invalidValue : number .errInvalidValue = codes.invalidValue.1

variable {contextOf number} {codes : ErrCodes} {f : Facade} {router : Router ManagerInstance}
  {caller : Caller} {op : Operation} {arguments : op.Arguments} {call : ProviderCall} {missing : op.Answer}

namespace Routes

/-- What a visit to one place does. -/
abbrev visited (contextOf : Caller → CallContext) (number : ErrCode → Int32)
    (router : Router ManagerInstance) (caller : Caller) (place : Place) (op : Operation)
    (arguments : op.Arguments) : Router ManagerInstance × List (Option op.Answer) :=
  router.visit
    (fun owner arguments => (providers contextOf number).perform router.users caller owner op arguments)
    false [(place, arguments)]

theorem visited_absent {place : Place} (absent : router.managers place = none) :
    visited contextOf number router caller place op arguments = (router, [none]) := by
  simp [visited, Router.visit, Visits.visit, absent]

theorem visited_present {place : Place} {owner : ManagerInstance}
    (present : router.managers place = some owner) (known : providerCall op arguments = some call) :
    (visited contextOf number router caller place op arguments).1.users = router.users ∧
      (visited contextOf number router caller place op arguments).1.managers =
        Function.update router.managers place (some (owner.perform (contextOf caller) call).1) ∧
      (visited contextOf number router caller place op arguments).2 =
        [some (op.ofCode (number (owner.perform (contextOf caller) call).2))] := by
  simp [visited, Router.visit, Visits.visit, present, providers, known]

variable {owner : ManagerInstance} {after : Router ManagerInstance} {userId : Int}

theorem setBase (routes : Routes f router) (users : after.users = router.users)
    (managers : after.managers = Function.update router.managers .base (some owner)) :
    Routes { f with base := owner } after where
  ids := users ▸ routes.ids
  foreground := users ▸ routes.foreground
  stopping other := users ▸ routes.stopping other
  base := by rw [managers, Function.update_self]
  users other := by rw [managers, Function.update_of_ne (by simp), routes.users]
  leaving other := by rw [managers, Function.update_of_ne (by simp), routes.leaving]

theorem setUser (routes : Routes f router) (users : after.users = router.users)
    (managers : after.managers = Function.update router.managers (.user userId) (some owner)) :
    Routes (f.setUser userId owner) after where
  ids := users ▸ routes.ids
  foreground := users ▸ routes.foreground
  stopping other := users ▸ routes.stopping other
  base := by rw [managers, Function.update_of_ne (by simp), routes.base]; rfl
  users other := by
    simp only [managers, Facade.setUser]
    by_cases same : other = userId
    · rw [same, Function.update_self, Function.update_self]
    · rw [Function.update_of_ne (by simpa using same), Function.update_of_ne same, routes.users]
  leaving other := by rw [managers, Function.update_of_ne (by simp), routes.leaving]; rfl

theorem setStopping (routes : Routes f router) (users : after.users = router.users)
    (managers : after.managers = Function.update router.managers (.stopping userId) (some owner))
    (leaves : (f.stoppingManagers userId).isSome = true) :
    Routes { f with stoppingManagers := Function.update f.stoppingManagers userId (some owner) } after where
  ids := users ▸ routes.ids
  foreground := users ▸ routes.foreground
  stopping other := by
    simp only [users, routes.stopping]
    by_cases same : other = userId
    · rw [same, Function.update_self, leaves]
      rfl
    · rw [Function.update_of_ne same]
  base := by rw [managers, Function.update_of_ne (by simp), routes.base]
  users other := by rw [managers, Function.update_of_ne (by simp), routes.users]
  leaving other := by
    simp only [managers]
    by_cases same : other = userId
    · rw [same, Function.update_self, Function.update_self]
    · rw [Function.update_of_ne (by simpa using same), Function.update_of_ne same, routes.leaving]

/-- The router after a visit stands for this facade, and the code is the same. -/
def Follows (number : ErrCode → Int32) (op : Operation) (missing : op.Answer) (done : Facade × ErrCode)
    (visited : Router ManagerInstance × List (Option op.Answer)) : Prop :=
  Routes done.1 visited.1 ∧ visited.2.head?.join.getD missing = op.ofCode (number done.2)

theorem onBase (routes : Routes f router) (known : providerCall op arguments = some call) :
    Follows number op missing (f.onBase (contextOf caller) call)
      (visited contextOf number router caller .base op arguments) := by
  obtain ⟨users, managers, answer⟩ := @visited_present contextOf number router caller op arguments call .base
    f.base routes.base known
  exact ⟨routes.setBase users managers, by rw [answer]; rfl⟩

theorem onCaller (routes : Routes f router) (known : providerCall op arguments = some call)
    (failed : missing = op.ofCode (number .errInvalidValue)) :
    Follows number op missing (f.onCaller (contextOf caller) userId call)
      (visited contextOf number router caller (UserTable.placeOf userId) op arguments) := by
  rw [UserTable.placeOf, Facade.onCaller]
  by_cases base : userId = BASE_USER
  · rw [if_pos base, if_neg (not_not.mpr base)]
    exact routes.onBase known
  · rw [if_neg base, if_pos base]
    cases found : f.multiUserManagers userId with
    | none =>
        rw [visited_absent ((routes.users userId).trans found)]
        exact ⟨routes, failed⟩
    | some owner =>
        obtain ⟨users, managers, answer⟩ := @visited_present contextOf number router caller op arguments call
          (.user userId) owner ((routes.users userId).trans found) known
        exact ⟨routes.setUser users managers, by rw [answer]; rfl⟩

variable {callingUserId : Caller → Int} {saId : Int32} {refused : Int32 → op.Answer} {place : Place}
  {userLifecycleManager : Remote.Service systemAbilityManager Caller (Router ManagerInstance)}
  {done : Facade × ErrCode}

/-- Where the ability decides, the place is asked exactly if the ability is of the caller's kind. -/
theorem ofSa (routes : Routes f router) (numbered : Numbered codes number)
    (refuses : ∀ code, refused code = op.ofCode code)
    (routed : route codes router.users (callingUserId caller) op arguments =
      forSa codes router.users (callingUserId caller) saId place arguments refused)
    (follows : Follows number op (refused codes.invalidValue.1) done
      (visited contextOf number router caller place op arguments)) :
    let routeResult := routeForSa f.multiInstanceSaIds saId.toInt (callingUserId caller)
    let expected := if routeResult ≠ .errOk then (f, routeResult) else done
    let served := facade codes callingUserId (providers contextOf number) userLifecycleManager caller router op
      arguments
    Routes expected.1 served.1 ∧ served.2 = op.ofCode (number expected.2) := by
  intro routeResult expected served
  have same : router.users.routeForSa saId (callingUserId caller) = routeResult := by
    rw [UserTable.routeForSa, routes.ids]
  simp only [served, expected, facade, routed, forSa, same]
  by_cases apart : routeResult ≠ .errOk
  · simp only [if_pos apart]
    refine ⟨routes, ?_⟩
    have notAllowed : routeResult = Samgr.SA_OPERATION_NOT_ALLOWED := by
      revert apart
      simp only [routeResult, routeForSa]
      split
      · split <;> simp
      · split <;> simp
    show refused _ = _
    rw [refuses, notAllowed, numbered.notAllowed]
  · simp only [if_neg apart]
    exact follows

theorem remove (routes : Routes f router) {userId : Int} {saId : Int32}
    {missing : Int32} (failed : missing = number .errInvalidValue) :
    Follows number .removeSystemAbility missing
      (if userId ≠ BASE_USER then
        match f.stoppingManagers userId with
        | some i =>
            let done := i.removeSystemAbility (contextOf caller) saId.toInt
            ({ f with stoppingManagers := Function.update f.stoppingManagers userId (some done.1) }, done.2)
        | none => f.onCaller (contextOf caller) userId (.removeSystemAbility saId.toInt)
      else f.onBase (contextOf caller) (.removeSystemAbility saId.toInt))
      (visited contextOf number router caller (removalPlace router.users userId) .removeSystemAbility saId) := by
  rw [removalPlace, routes.stopping]
  by_cases base : userId ≠ BASE_USER
  · rw [if_pos base]
    cases found : f.stoppingManagers userId with
    | none =>
        rw [if_neg (by simp)]
        exact routes.onCaller rfl failed
    | some owner =>
        rw [if_pos ⟨base, rfl⟩]
        obtain ⟨users, managers, answer⟩ := @visited_present contextOf number router caller .removeSystemAbility
          saId _ (.stopping userId) owner ((routes.leaving userId).trans found) rfl
        exact ⟨routes.setStopping users managers (by rw [found]; rfl), by rw [answer]; rfl⟩
  · rw [if_neg base, if_neg (fun both => base both.1), UserTable.placeOf, if_pos (not_not.mp base)]
    exact routes.onBase rfl

theorem routeForUser (routes : Routes f router) (saId : Int32) (userId : Int) :
    router.users.routeForUser saId userId = f.routeForUser saId.toInt userId := by
  rw [UserTable.routeForUser, UserTable.isMultiInstanceSaId, routes.ids, routes.foreground,
    Facade.routeForUser]
  cases f.multiInstanceSaIds.contains saId.toInt <;> rfl

/-- A look-up changes no manager. -/
theorem looked_router (place : Place) (saId : Int32) :
    (visited contextOf number router caller place .checkSystemAbility saId).1 = router := by
  cases found : router.managers place with
  | none => rw [visited_absent found]
  | some owner =>
      have kept : Function.update router.managers place (some owner) = router.managers := by
        rw [← found, Function.update_eq_self]
      simp [visited, Router.visit, Visits.visit, found, providers, providerCall, kept]

/-- It finds what the look-up under the other facade finds. -/
theorem looked_answer (routes : Routes f router) (saId : Int32) (userId : Int) :
    (visited contextOf number router caller (UserTable.placeOf (router.users.routeForUser saId userId))
      .checkSystemAbility saId).2.head?.join.join = f.checkSystemAbility userId saId.toInt := by
  rw [routes.routeForUser, UserTable.placeOf]
  simp only [Facade.checkSystemAbility]
  split
  · rename_i base
    simp [visited, Router.visit, Visits.visit, routes.base, providers, providerCall, lookUp, base]
  · rename_i user
    rw [← routes.users]
    cases found : router.managers (.user (f.routeForUser saId.toInt userId)) with
    | none => rw [visited_absent found]; rfl
    | some owner => simp [visited, Router.visit, Visits.visit, found, providers, providerCall, lookUp]

theorem startFail (routes : Routes f router)
    {userLifecycleManager : Remote.Service systemAbilityManager Caller (Router ManagerInstance)}
    {callingUserId : Caller → Int} (saId errCode : Int32) :
    let done := f.perform (contextOf caller) (callingUserId caller)
      (.onStartSystemAbilityFail saId.toInt errCode.toInt)
    let served := facade codes callingUserId (providers contextOf number) userLifecycleManager caller router
      .onStartSystemAbilityFail (saId, errCode)
    Routes done.1 served.1 ∧ served.2 = number done.2 := by
  intro done served
  let place := UserTable.placeOf (router.users.routeForUser saId (callingUserId caller))
  let found := visited contextOf number router caller place .checkSystemAbility saId
  let worked := found.1.visit
    (fun owner (arguments : Int32 × Int32) =>
      (providers contextOf number).performLooked router.users caller owner found.2.head?.join.join
        .onStartSystemAbilityFail arguments) false [(.base, (saId, errCode))]
  have parts : served = (worked.1, worked.2.head?.join.getD codes.invalidValue.1) := rfl
  have same : found.1 = router := looked_router place saId
  have answer : found.2.head?.join.join = f.checkSystemAbility (callingUserId caller) saId.toInt :=
    routes.looked_answer saId (callingUserId caller)
  have base : worked.1.users = router.users ∧
      worked.1.managers = Function.update router.managers .base (some done.1.base) ∧
      worked.2 = [some (number done.2)] := by
    simp only [worked, same, answer, Router.visit, Visits.visit, routes.base, providers, providerCall]
    exact ⟨trivial, rfl, rfl⟩
  rw [parts]
  exact ⟨routes.setBase base.1 base.2.1, by rw [base.2.2]; rfl⟩

end Routes

open Routes in
/-- A provider's call does the same to the managers under both facades, and has the same code. -/
theorem provider_calls_refined (callingUserId : Caller → Int)
    (userLifecycleManager : Remote.Service systemAbilityManager Caller (Router ManagerInstance))
    (routes : Routes f router) (numbered : Numbered codes number)
    (known : providerCall op arguments = some call) :
    let done := f.perform (contextOf caller) (callingUserId caller) call
    let served := facade codes callingUserId (providers contextOf number) userLifecycleManager caller router op
      arguments
    Routes done.1 served.1 ∧ served.2 = op.ofCode (number done.2) := by
  have invalid := numbered.invalidValue.symm
  cases op with
  | addSystemProcess =>
      obtain ⟨procName, procObject⟩ := arguments
      cases procObject with
      | none => cases known
      | some procObject =>
          cases known
          exact routes.onCaller rfl invalid
  | addSystemAbility =>
      obtain ⟨saId, ability, extraProp⟩ := arguments
      cases ability with
      | none => cases known
      | some ability =>
          cases known
          exact routes.ofSa numbered (fun _ => rfl) rfl (routes.onCaller rfl invalid)
  | removeSystemAbility =>
      cases known
      exact routes.ofSa numbered (fun _ => rfl) rfl (routes.remove invalid)
  | addOndemandSystemAbility | unloadSystemAbility | cancelUnloadSystemAbility | updateOnDemandPolicy =>
      cases known
      exact routes.ofSa numbered (fun _ => rfl) rfl (routes.onCaller rfl invalid)
  | onStartSystemAbilityFail =>
      cases known
      exact routes.startFail _ _
  | _ => cases known

end Samgr.Ipc
