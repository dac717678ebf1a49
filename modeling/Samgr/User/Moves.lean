import Samgr.User.Stages

/-! What each piece of the life cycle does to the stages: its own user goes from one stage to the
next, with its managers accounted for, and every other user stays where it is. -/
namespace Samgr

namespace UserLifecycleManager

variable {s s' : UserLifecycleManager} {pieces pieces' others : List UserPiece} {userId : Int}
  {live : Option Nat} {piece : UserPiece} {input : UserInput}

theorem Good.onUserStateChanged {userState : Option SamgrUserState}
    (good : s.Good (.onUserStateChanged userId userState :: others))
    (free : ∀ piece ∈ others, piece.releases ≠ some userId) :
    (s.exec input (.onUserStateChanged userId userState)).1.Good
      ((s.exec input (.onUserStateChanged userId userState)).2 ++ others) := by
  apply good.go userId rfl rfl
  intro live stands
  have none : calls userId others = [] := by
    apply List.filter_eq_nil_iff.mpr
    intro piece member releases
    exact free piece member (by simpa using releases)
  have stage := (at_cons_of_plain rfl rfl).mp stands
  rw [At, none] at stage
  have begun : ∀ piece : UserPiece, piece.quiet = true → piece.releases = some userId →
      s.At (piece :: others) userId live := by
    intro piece quiet holds
    rw [at_cons_of_holds holds, none]
    exact Stage.begin quiet stage
  split
  · exact begun _ rfl rfl
  · exact begun _ rfl rfl
  · exact begun _ rfl rfl
  · exact begun _ rfl rfl

theorem Good.handleUserActivating (good : s.Good (.handleUserActivating userId :: others)) :
    (s.exec input (.handleUserActivating userId)).1.Good
      ((s.exec input (.handleUserActivating userId)).2 ++ others) := by
  apply good.go userId rfl rfl
  intro live stands
  unfold UserLifecycleManager.handleUserActivating
  split
  · exact stands.replace rfl rfl rfl rfl
  · next running =>
    split
    · exact stands.replace rfl rfl rfl rfl
    · next missing =>
      have stage := (at_cons_of_holds rfl).mp stands
      obtain ⟨view, single, none, empty, rfl⟩ :=
        stage.absent_of_missing rfl running (Option.not_isSome_iff_eq_none.mp missing)
      rw [List.singleton_append, at_cons_of_holds rfl, view, single, none, empty]
      exact .creating

/-- A new manager takes the next number. -/
theorem managers_made (owner other : Int) (manager : Nat) :
    (s.managers ++ [owner])[manager]? = some other ↔
      s.managers[manager]? = some other ∨ manager = s.managers.length ∧ owner = other := by
  rw [List.getElem?_append]
  grind

theorem lt_of_owned {manager : Nat} (owned : s.managers[manager]? = some userId) :
    manager < s.managers.length := (List.getElem?_eq_some_iff.mp owned).1

/-- The state with one more manager. -/
def made (s : UserLifecycleManager) (owner : Int) : UserLifecycleManager :=
  { s with managers := s.managers ++ [owner] }

/-- The state after a call of `Destroy`. -/
def destroying (s : UserLifecycleManager) (manager : Nat) : UserLifecycleManager :=
  { s with destroyed := s.destroyed ++ [manager] }

theorem Bounded.made (bounded : s.Bounded) (owner : Int) : (s.made owner).Bounded := by
  have longer : (s.made owner).managers.length = s.managers.length + 1 := by
    simp [UserLifecycleManager.made]
  refine ⟨?_, ?_, bounded.single, bounded.finalizing, bounded.stored⟩
  · intro manager listed
    have before := bounded.destroyed manager listed
    omega
  · intro context listed
    have before := bounded.contexts context listed
    exact ⟨before.1, by omega⟩

theorem Bounded.destroying {manager : Nat} (bounded : s.Bounded) (known : manager < s.managers.length) :
    (s.destroying manager).Bounded := by
  refine ⟨?_, bounded.contexts, bounded.single, bounded.finalizing, bounded.stored⟩
  intro other listed
  rcases List.mem_append.mp listed with old | new
  · exact bounded.destroyed other old
  · rw [List.mem_singleton.mp new]
    exact known

/-- The new manager is in use. -/
theorem Accounted.made (accounted : s.Accounted userId none) (bounded : s.Bounded) :
    (s.made userId).Accounted userId (some s.managers.length) := by
  refine ⟨?_, ?_, ?_⟩
  · intro manager own
    cases own
    exact (managers_made userId userId _).mpr (.inr ⟨rfl, rfl⟩)
  · intro manager owned
    rcases (managers_made userId userId manager).mp owned with known | ⟨new, -⟩
    · have different : s.managers.length ≠ manager := (lt_of_owned known).ne'
      simpa [UserLifecycleManager.made, different] using accounted.count manager known
    · have unused : s.destroyed.count s.managers.length = 0 := by
        apply List.count_eq_zero.mpr
        intro listed
        exact absurd (bounded.destroyed _ listed) (lt_irrefl _)
      simpa [UserLifecycleManager.made, new] using unused
  · intro _ context listed own
    have before := (bounded.contexts context listed).2
    rw [← Option.some.inj own] at before
    exact absurd before (lt_irrefl _)

theorem SameFor.made {other : Int} (different : other ≠ userId) : SameFor other s (s.made userId) := by
  refine ⟨rfl, rfl, ?_, fun _ _ => rfl, fun _ _ unset => unset, fun _ listed _ => listed⟩
  intro manager
  rw [UserLifecycleManager.made, managers_made]
  simp [different.symm]

/-- The manager in use is destroyed, and no manager is in use. -/
theorem Accounted.destroying {manager : Nat} (accounted : s.Accounted userId (some manager)) :
    (s.destroying manager).Accounted userId none := by
  refine ⟨nofun, ?_, fun _ _ _ => nofun⟩
  intro other owned
  have before := accounted.count other owned
  rw [UserLifecycleManager.destroying, List.count_append, before]
  by_cases same : manager = other
  · simp [same]
  · simp [same]

theorem SameFor.destroying {other : Int} {manager : Nat} (different : other ≠ userId)
    (own : s.managers[manager]? = some userId) : SameFor other s (s.destroying manager) := by
  refine ⟨rfl, rfl, fun _ => Iff.rfl, ?_, fun _ _ unset => unset, fun _ listed _ => listed⟩
  intro one owned
  have apart : manager ≠ one := by
    intro same
    rw [← same, own] at owned
    exact different (Option.some.inj owned).symm
  simp [UserLifecycleManager.destroying, List.count_append, apart]

theorem SameFor.trans {s'' : UserLifecycleManager} (first : SameFor userId s s') (second : SameFor userId s' s'') :
    SameFor userId s s'' := by
  refine ⟨second.view.trans first.view, second.tasks.trans first.tasks,
    fun manager => (second.managers manager).trans (first.managers manager), ?_, ?_, ?_⟩
  · intro manager owned
    rw [second.destroyed manager ((first.managers manager).mpr owned), first.destroyed manager owned]
  · intro context owned unset
    exact second.finalizing context ((first.managers _).mpr owned) (first.finalizing context owned unset)
  · intro context listed owned
    exact first.contexts context (second.contexts context listed ((first.managers _).mpr owned)) owned

theorem Good.initManager (good : s.Good (.initManager userId :: others)) :
    (s.exec input (.initManager userId)).1.Good ((s.exec input (.initManager userId)).2 ++ others) := by
  obtain ⟨live, stands, accounted⟩ := good.users userId
  obtain ⟨view, single, none, empty, rfl⟩ := ((at_cons_of_holds rfl).mp stands).of_initManager
  by_cases profiles : s.allSaProfiles
  · by_cases failed : input.initResult = .errOk
    · have done : s.exec input (.initManager userId) =
          (s.made userId, [.insertManager userId s.managers.length]) := by
        simp [exec, UserLifecycleManager.initManager, UserLifecycleManager.made, profiles, failed]
      refine good.advance userId rfl done ⟨_, ?_, accounted.made good.bounded⟩
        (fun _ different => SameFor.made different) (good.bounded.made userId) good.foreground
      rw [List.singleton_append, at_cons_of_holds rfl, single, none]
      exact view ▸ empty ▸ .inserting s.managers.length
    · have done : s.exec input (.initManager userId) =
          ((s.made userId).destroying s.managers.length, [.returned userId input.initResult]) := by
        simp [exec, UserLifecycleManager.initManager, UserLifecycleManager.made,
          UserLifecycleManager.destroying, profiles, failed]
      have created := accounted.made good.bounded
      have own := created.own _ rfl
      refine good.advance userId rfl done ⟨Option.none, ?_, created.destroying⟩ ?_
        ((good.bounded.made userId).destroying (lt_of_owned own)) good.foreground
      · rw [List.singleton_append, at_cons_of_holds rfl, single, none]
        exact view ▸ empty ▸ .absent (.one _ rfl)
      · intro other different
        exact (SameFor.made different).trans (SameFor.destroying different own)
  · have done : s.exec input (.initManager userId) = (s, [.returned userId .errInvalidValue]) := by
      simp [exec, UserLifecycleManager.initManager, profiles]
    apply good.go userId rfl done
    intro live stands
    obtain ⟨view, single, none, empty, rfl⟩ := ((at_cons_of_holds rfl).mp stands).of_initManager
    rw [List.singleton_append, at_cons_of_holds rfl, view, single, none, empty]
    exact .absent (.one _ rfl)

/-- Only entries of another user are changed. -/
theorem SameFor.of_view (view : s'.view userId = s.view userId) (stopTasks : s'.tasks userId = s.tasks userId)
    (managers : s'.managers = s.managers) (destroyed : s'.destroyed = s.destroyed)
    (finalizing : s'.finalizing = s.finalizing) (contexts : s'.contexts = s.contexts) :
    SameFor userId s s' := by
  refine ⟨view, stopTasks, fun manager => by rw [managers], fun manager _ => by rw [destroyed], ?_, ?_⟩
  · intro context _ unset
    rwa [finalizing]
  · intro context listed _
    rwa [← contexts]

theorem Accounted.of_eq (accounted : s.Accounted userId live) (managers : s'.managers = s.managers)
    (destroyed : s'.destroyed = s.destroyed) (contexts : s'.contexts = s.contexts)
    (unset : s'.userStoppingContexts userId = none →
      s.userStoppingContexts userId = none ∨ live = none) : s'.Accounted userId live := by
  refine ⟨?_, ?_, ?_⟩
  · rw [managers]
    exact accounted.own
  · rw [managers, destroyed]
    exact accounted.count
  · rw [contexts]
    intro gone context listed own
    rcases unset gone with before | nothing
    · exact accounted.unstopped before context listed own
    · rw [nothing] at own
      cases own

theorem Bounded.of_eq (bounded : s.Bounded) (managers : s'.managers = s.managers)
    (destroyed : s'.destroyed = s.destroyed) (contexts : s'.contexts = s.contexts)
    (finalizing : s'.finalizing = s.finalizing)
    (stored : s'.userStoppingContexts = s.userStoppingContexts) : s'.Bounded := by
  refine ⟨?_, ?_, ?_, ?_, ?_⟩
  · rw [managers, destroyed]
    exact bounded.destroyed
  · rw [contexts, managers]
    exact bounded.contexts
  · rw [contexts]
    exact bounded.single
  · rw [contexts, finalizing]
    exact bounded.finalizing
  · rw [contexts, stored]
    exact bounded.stored

/-- The entries of an absent user, one by one. -/
theorem view_eq_iff {view : UserView} :
    s.view userId = view ↔
      s.userStateMap userId = view.state ∧ s.multiUserManagers userId = view.manager ∧
        s.validUserIds userId = view.valid ∧ s.userStoppingContexts userId = view.context := by
  cases view
  simp [UserLifecycleManager.view]

theorem Good.insertManager {manager : Nat} (good : s.Good (.insertManager userId manager :: others)) :
    (s.exec input (.insertManager userId manager)).1.Good
      ((s.exec input (.insertManager userId manager)).2 ++ others) := by
  obtain ⟨live, stands, accounted⟩ := good.users userId
  obtain ⟨view, single, none, empty, rfl⟩ := ((at_cons_of_holds rfl).mp stands).of_insertManager
  obtain ⟨state, missing, valid, context⟩ := view_eq_iff.mp view
  have done : s.exec input (.insertManager userId manager) =
      ({ s with
          multiUserManagers := Function.update s.multiUserManagers userId (some manager)
          validUserIds := Function.update s.validUserIds userId true
          userStateMap := Function.update s.userStateMap userId (some .activating) }, [.returned userId .errOk]) := by
    have absent : ¬ (s.multiUserManagers userId).isSome := by simp [missing, UserView.absent]
    simp [exec, UserLifecycleManager.insertManager, absent]
  apply good.advance userId rfl done
  · refine ⟨some manager, ?_, accounted.of_eq rfl rfl rfl .inl⟩
    have entered : ({ s with
        multiUserManagers := Function.update s.multiUserManagers userId (some manager)
        validUserIds := Function.update s.validUserIds userId true
        userStateMap := Function.update s.userStateMap userId (some .activating) } : UserLifecycleManager).view userId =
        .active .activating manager := by
      rw [view_eq_iff]
      simp [UserView.active, context, UserView.absent]
    rw [List.singleton_append, at_cons_of_holds rfl, entered, single, none]
    exact empty ▸ .active .activating manager (by decide) (.one _ rfl)
  · intro other different
    refine SameFor.of_view ?_ rfl rfl rfl rfl rfl
    simp [UserLifecycleManager.view, different]
  · exact good.bounded.of_eq rfl rfl rfl rfl rfl
  · rcases good.foreground with invalid | active
    · exact .inl invalid
    · right
      by_cases own : s.foregroundUserId = userId
      · simp [own]
      · simpa [own] using active

theorem Good.handleUserSwitching (good : s.Good (.handleUserSwitching userId :: others)) :
    (s.exec input (.handleUserSwitching userId)).1.Good
      ((s.exec input (.handleUserSwitching userId)).2 ++ others) := by
  obtain ⟨live, stands, accounted⟩ := good.users userId
  by_cases switches : s.userStateMap userId ≠ some .stopping ∧ userId ≠ s.foregroundUserId ∧
      (s.multiUserManagers userId).isSome
  · obtain ⟨running, background, present⟩ := switches
    obtain ⟨manager, entry⟩ := Option.isSome_iff_exists.mp present
    have done : s.exec input (.handleUserSwitching userId) =
        ({ s with
            userStateMap := Function.update s.userStateMap userId (some .switching)
            foregroundUserId := userId }, [.returned userId .errOk]) := by
      simp [exec, UserLifecycleManager.handleUserSwitching, running, background, entry]
    apply good.advance userId rfl done
    · obtain ⟨⟨state, -, view⟩, single, none, empty, rfl⟩ :=
        ((at_cons_of_holds rfl).mp stands).active_of_entry rfl entry
      refine ⟨some manager, ?_, accounted.of_eq rfl rfl rfl .inl⟩
      have switched : ({ s with
          userStateMap := Function.update s.userStateMap userId (some .switching)
          foregroundUserId := userId } : UserLifecycleManager).view userId =
          .active .switching manager := by
        obtain ⟨-, missing, valid, context⟩ := view_eq_iff.mp view
        rw [view_eq_iff]
        simp [UserView.active, missing, valid, context]
      rw [List.singleton_append, at_cons_of_holds rfl, switched, single, none]
      exact empty ▸ .active .switching manager (by decide) (.one _ rfl)
    · intro other different
      refine SameFor.of_view ?_ rfl rfl rfl rfl rfl
      simp [UserLifecycleManager.view, different]
    · exact good.bounded.of_eq rfl rfl rfl rfl rfl
    · exact .inr present
  · have same : (s.handleUserSwitching userId).1 = s := by
      unfold UserLifecycleManager.handleUserSwitching
      split
      · rfl
      · split
        · rfl
        · split
          · rfl
          · next running background present =>
            exact absurd ⟨running, background, by simpa [Option.isSome_iff_ne_none] using present⟩ switches
    have done : s.exec input (.handleUserSwitching userId) =
        (s, [.returned userId (s.handleUserSwitching userId).2]) := by simp only [exec, same]
    apply good.go userId rfl done
    intro live stands
    exact stands.replace rfl rfl rfl rfl

theorem Good.handleUserStopping (good : s.Good (.handleUserStopping userId :: others)) :
    (s.exec input (.handleUserStopping userId)).1.Good
      ((s.exec input (.handleUserStopping userId)).2 ++ others) := by
  obtain ⟨live, stands, accounted⟩ := good.users userId
  have stage := (at_cons_of_holds rfl).mp stands
  by_cases already : (s.userStoppingContexts userId).isSome
  · have done : s.exec input (.handleUserStopping userId) = (s, [.returned userId .errOk]) := by
      simp [exec, UserLifecycleManager.handleUserStopping, already]
    apply good.go userId rfl done
    intro live stands
    exact stands.replace rfl rfl rfl rfl
  · cases entry : s.multiUserManagers userId with
    | none =>
        have done : s.exec input (.handleUserStopping userId) =
            ({ s with
                validUserIds := Function.update s.validUserIds userId false
                userStateMap := Function.update s.userStateMap userId none },
              [.returned userId .errInvalidValue]) := by
          simp [exec, UserLifecycleManager.handleUserStopping, already, entry]
        -- Nothing is stopped, and the entries of the user were these before.
        obtain ⟨view, -⟩ := stage.absent_of_nothing rfl entry (Option.not_isSome_iff_eq_none.mp already)
        obtain ⟨state, missing, valid, context⟩ := view_eq_iff.mp view
        have same : ({ s with
            validUserIds := Function.update s.validUserIds userId false
            userStateMap := Function.update s.userStateMap userId none } : UserLifecycleManager) = s := by
          have unset : none = s.userStateMap userId := state.symm
          have unlisted : false = s.validUserIds userId := valid.symm
          rw [unset, unlisted, Function.update_eq_self, Function.update_eq_self]
        apply good.go userId rfl (done.trans (by rw [same]))
        intro live stands
        exact stands.replace rfl rfl rfl rfl
    | some manager =>
        obtain ⟨⟨state, -, view⟩, single, none, empty, rfl⟩ := stage.active_of_entry rfl entry
        obtain ⟨-, -, -, context⟩ := view_eq_iff.mp view
        have done : s.exec input (.handleUserStopping userId) =
            ({ s with
                validUserIds := Function.update s.validUserIds userId false
                userStateMap := Function.update s.userStateMap userId (some .stopping)
                multiUserManagers := Function.update s.multiUserManagers userId Option.none
                foregroundUserId :=
                  if userId = s.foregroundUserId then SAMGR_INVALID_USER_ID else s.foregroundUserId },
              [.getSystemProcessNames userId manager]) := by
          simp [exec, UserLifecycleManager.handleUserStopping, already, entry]
        apply good.advance userId rfl done
        · refine ⟨some manager, ?_, accounted.of_eq rfl rfl rfl .inl⟩
          have left : ({ s with
              validUserIds := Function.update s.validUserIds userId false
              userStateMap := Function.update s.userStateMap userId (some .stopping)
              multiUserManagers := Function.update s.multiUserManagers userId Option.none
              foregroundUserId :=
                if userId = s.foregroundUserId then SAMGR_INVALID_USER_ID else s.foregroundUserId
              } : UserLifecycleManager).view userId = .leaving := by
            rw [view_eq_iff]
            simp [UserView.leaving, context, UserView.active]
          rw [List.singleton_append, at_cons_of_holds rfl, left, single, none]
          exact empty ▸ .listing manager
        · intro other different
          refine SameFor.of_view ?_ rfl rfl rfl rfl rfl
          simp [UserLifecycleManager.view, different]
        · exact good.bounded.of_eq rfl rfl rfl rfl rfl
        · by_cases own : userId = s.foregroundUserId
          · left
            exact if_pos own
          · rcases good.foreground with invalid | present
            · left
              exact (if_neg own).trans invalid
            · right
              simpa [own, Function.update_of_ne (Ne.symm own)] using present

theorem Good.getSystemProcessNames {manager : Nat}
    (good : s.Good (.getSystemProcessNames userId manager :: others)) :
    (s.exec input (.getSystemProcessNames userId manager)).1.Good
      ((s.exec input (.getSystemProcessNames userId manager)).2 ++ others) := by
  apply good.go userId rfl rfl
  intro live stands
  obtain ⟨view, single, none, empty, rfl⟩ := ((at_cons_of_holds rfl).mp stands).of_getSystemProcessNames
  rw [List.singleton_append, at_cons_of_holds rfl, view, single, none, empty]
  exact .starting manager input.processNames

/-- A new context has a number of its own and a manager of its own. -/
theorem Bounded.startUserStopping {manager : Nat} (bounded : s.Bounded)
    (own : s.managers[manager]? = some userId)
    (unstopped : ∀ context ∈ s.contexts, some manager ≠ some context.manager) (user : Int)
    (processNames : List String) : (s.startUserStopping user manager processNames).Bounded := by
  have known : ∀ context ∈ s.contexts ++ [s.newContext manager processNames],
      context ∈ s.contexts ∨ context = s.newContext manager processNames := by
    intro context listed
    rcases List.mem_append.mp listed with old | new
    · exact .inl old
    · exact .inr (List.mem_singleton.mp new)
  refine ⟨bounded.destroyed, ?_, ?_, ?_, ?_⟩
  · intro context listed
    simp only [UserLifecycleManager.startUserStopping, List.length_append, List.length_singleton]
    rcases known context listed with old | rfl
    · have before := bounded.contexts context old
      exact ⟨by omega, before.2⟩
    · exact ⟨Nat.lt_succ_self _, lt_of_owned own⟩
  · intro context listed other listedOther same
    rcases known context listed with old | rfl
    · rcases known other listedOther with oldOther | rfl
      · exact bounded.single context old other oldOther same
      · exact absurd (congrArg some same.symm) (unstopped context old)
    · rcases known other listedOther with oldOther | rfl
      · exact absurd (congrArg some same) (unstopped other oldOther)
      · rfl
  · intro context listed
    exact List.mem_append_left _ (bounded.finalizing context listed)
  · intro other context entry
    simp only [UserLifecycleManager.startUserStopping] at entry
    by_cases same : other = user
    · rw [same, Function.update_self] at entry
      rw [← Option.some.inj entry]
      exact List.mem_append_right _ (List.mem_singleton_self _)
    · rw [Function.update_of_ne same] at entry
      exact List.mem_append_left _ (bounded.stored other context entry)

theorem Good.startUserStopping {manager : Nat} {processNames : List String}
    (good : s.Good (.startUserStopping userId manager processNames :: others)) :
    (s.exec input (.startUserStopping userId manager processNames)).1.Good
      ((s.exec input (.startUserStopping userId manager processNames)).2 ++ others) := by
  obtain ⟨live, stands, accounted⟩ := good.users userId
  obtain ⟨view, single, none, empty, rfl⟩ := ((at_cons_of_holds rfl).mp stands).of_startUserStopping
  obtain ⟨state, missing, valid, unstopped⟩ := view_eq_iff.mp view
  have unset : s.newContext manager processNames ∉ s.finalizing := by
    intro listed
    exact absurd (good.bounded.contexts _ (good.bounded.finalizing _ listed)).1 (lt_irrefl _)
  have own := accounted.own manager rfl
  have entered : (s.startUserStopping userId manager processNames).userStoppingContexts userId =
      some (s.newContext manager processNames) := Function.update_self ..
  refine good.advance userId rfl rfl ⟨some manager, ?_, ?_⟩ ?_ ?_ good.foreground
  · have begun : (s.startUserStopping userId manager processNames).view userId =
        .stopping (s.newContext manager processNames) := by
      rw [view_eq_iff]
      simp [UserLifecycleManager.startUserStopping, UserView.stopping, state, missing, valid, UserView.leaving]
    rw [List.singleton_append, at_cons_of_holds rfl, begun, single, none]
    exact empty ▸ .posting (s.newContext manager processNames) unset
  · refine ⟨accounted.own, accounted.count, ?_⟩
    intro gone
    rw [entered] at gone
    cases gone
  · intro other different
    refine ⟨?_, rfl, fun _ => Iff.rfl, fun _ _ => rfl, fun _ _ unset => unset, ?_⟩
    · simp [UserLifecycleManager.startUserStopping, UserLifecycleManager.view, different]
    · intro context listed owned
      rcases List.mem_append.mp listed with old | new
      · exact old
      · rw [List.mem_singleton.mp new] at owned
        exact absurd (Option.some.inj (owned.symm.trans own)) different
  · exact good.bounded.startUserStopping own (accounted.unstopped unstopped) userId processNames

theorem Good.postUserStopTimeoutTask {context : UserStopping}
    (good : s.Good (.postUserStopTimeoutTask userId context :: others)) :
    (s.exec input (.postUserStopTimeoutTask userId context)).1.Good
      ((s.exec input (.postUserStopTimeoutTask userId context)).2 ++ others) := by
  obtain ⟨live, stands, accounted⟩ := good.users userId
  obtain ⟨view, single, none, empty, rfl, unset⟩ :=
    ((at_cons_of_holds rfl).mp stands).of_postUserStopTimeoutTask
  by_cases atOnce : context.processNames.isEmpty || !input.posted
  · have done : s.exec input (.postUserStopTimeoutTask userId context) =
        (s, [.completeUserStopping true userId context]) := by
      simp only [exec, UserLifecycleManager.postUserStopTimeoutTask, atOnce, if_true]
    refine good.advance userId rfl done ⟨some context.manager, ?_, accounted⟩ (fun _ _ => SameFor.self)
      good.bounded good.foreground
    rw [List.singleton_append, at_cons_of_holds rfl, view, single, none, empty]
    exact .completingInCall context unset
  · have done : s.exec input (.postUserStopTimeoutTask userId context) =
        ({ s with stopTasks := s.stopTasks ++ [(userId, context)] }, [.returned userId .errOk]) := by
      simp only [exec, UserLifecycleManager.postUserStopTimeoutTask, atOnce, Bool.false_eq_true, if_false]
    refine good.advance userId rfl done ⟨some context.manager, ?_, accounted.of_eq rfl rfl rfl .inl⟩ ?_
      (good.bounded.of_eq rfl rfl rfl rfl rfl) good.foreground
    · have waits : ({ s with stopTasks := s.stopTasks ++ [(userId, context)]
          } : UserLifecycleManager).tasks userId = [(userId, context)] := by
        simpa [tasks] using empty
      rw [List.singleton_append, at_cons_of_holds rfl, single, none, waits]
      exact view ▸ .waiting context unset (.one _ rfl)
    · intro other different
      refine SameFor.of_view rfl ?_ rfl rfl rfl rfl
      simp [tasks, different.symm]

/-- A context of another user's manager is another context. -/
theorem ne_of_owned {context other : UserStopping} {owner : Int} (different : owner ≠ userId)
    (owned : s.managers[other.manager]? = some owner) (own : s.managers[context.manager]? = some userId) :
    other ≠ context := by
  intro same
  rw [same, own] at owned
  exact different (Option.some.inj owned).symm

theorem Good.completeUserStopping {inCall : Bool} {context : UserStopping}
    (good : s.Good (.completeUserStopping inCall userId context :: others)) :
    (s.exec input (.completeUserStopping inCall userId context)).1.Good
      ((s.exec input (.completeUserStopping inCall userId context)).2 ++ others) := by
  obtain ⟨live, stands, accounted⟩ := good.users userId
  have known : live = some context.manager ∧ context ∉ s.finalizing ∧
      s.userStoppingContexts userId = some context := by
    cases inCall with
    | true =>
        obtain ⟨view, -, -, -, own, unset⟩ := ((at_cons_of_holds rfl).mp stands).of_completeInCall
        exact ⟨own, unset, (view_eq_iff.mp view).2.2.2⟩
    | false =>
        obtain ⟨view, -, -, -, own, unset⟩ := ((at_cons_of_round rfl rfl).mp stands).of_complete
        exact ⟨own, unset, (view_eq_iff.mp view).2.2.2⟩
  obtain ⟨rfl, unset, entry⟩ := known
  have done : s.exec input (.completeUserStopping inCall userId context) =
      ({ s with finalizing := s.finalizing ++ [context] }, [.destroy inCall userId context]) := by
    simp only [exec, unset, if_false]
  apply good.advance userId rfl done
  · refine ⟨some context.manager, ?_, accounted.of_eq rfl rfl rfl .inl⟩
    cases inCall with
    | true =>
        obtain ⟨view, single, none, empty, -, -⟩ := ((at_cons_of_holds rfl).mp stands).of_completeInCall
        rw [List.singleton_append, at_cons_of_holds rfl, single, none]
        exact view ▸ empty ▸ .destroyingInCall context
    | false =>
        obtain ⟨view, idle, none, empty, -, -⟩ := ((at_cons_of_round rfl rfl).mp stands).of_complete
        rw [List.singleton_append, at_cons_of_round rfl rfl, none]
        exact view ▸ empty ▸ .destroying context idle
  · intro other different
    refine ⟨rfl, rfl, fun _ => Iff.rfl, fun _ _ => rfl, ?_, fun _ listed _ => listed⟩
    intro one owned clear listed
    rcases List.mem_append.mp listed with old | new
    · exact clear old
    · exact ne_of_owned different owned (accounted.own _ rfl) (List.mem_singleton.mp new)
  · refine ⟨good.bounded.destroyed, good.bounded.contexts, good.bounded.single, ?_, good.bounded.stored⟩
    intro one listed
    rcases List.mem_append.mp listed with old | new
    · exact good.bounded.finalizing one old
    · rw [List.mem_singleton.mp new]
      exact good.bounded.stored userId context entry
  · exact good.foreground

theorem Good.destroy {inCall : Bool} {context : UserStopping}
    (good : s.Good (.destroy inCall userId context :: others)) :
    (s.exec input (.destroy inCall userId context)).1.Good
      ((s.exec input (.destroy inCall userId context)).2 ++ others) := by
  obtain ⟨live, stands, accounted⟩ := good.users userId
  have known : live = some context.manager := by
    cases inCall with
    | true => exact ((at_cons_of_holds rfl).mp stands).of_destroyInCall.2.2.2.2
    | false => exact ((at_cons_of_round rfl rfl).mp stands).of_destroy.2.2.2.2
  subst known
  have own := accounted.own _ rfl
  refine good.advance userId rfl rfl ⟨Option.none, ?_, accounted.destroying⟩
    (fun _ different => SameFor.destroying different own) (good.bounded.destroying (lt_of_owned own))
    good.foreground
  cases inCall with
  | true =>
      obtain ⟨view, single, none, empty, -⟩ := ((at_cons_of_holds rfl).mp stands).of_destroyInCall
      rw [List.singleton_append, at_cons_of_holds rfl, single, none]
      exact view ▸ empty ▸ .erasingInCall context
  | false =>
      obtain ⟨view, idle, none, empty, -⟩ := ((at_cons_of_round rfl rfl).mp stands).of_destroy
      rw [List.singleton_append, at_cons_of_round rfl rfl, none]
      exact view ▸ empty ▸ .erasing context idle

/-- A stop ends in the absence of the user. -/
theorem Good.eraseStoppingContext {inCall : Bool} {context : UserStopping}
    (good : s.Good (.eraseStoppingContext inCall userId context :: others)) :
    (s.exec input (.eraseStoppingContext inCall userId context)).1.Good
      ((s.exec input (.eraseStoppingContext inCall userId context)).2 ++ others) := by
  obtain ⟨live, stands, accounted⟩ := good.users userId
  have known : s.view userId = .stopping context ∧ live = none := by
    cases inCall with
    | true =>
        obtain ⟨view, -, -, -, own⟩ := ((at_cons_of_holds rfl).mp stands).of_eraseInCall
        exact ⟨view, own⟩
    | false =>
        obtain ⟨view, -, -, -, own⟩ := ((at_cons_of_round rfl rfl).mp stands).of_erase
        exact ⟨view, own⟩
  obtain ⟨view, rfl⟩ := known
  obtain ⟨state, missing, valid, entry⟩ := view_eq_iff.mp view
  simp only [UserView.stopping] at state missing valid entry
  have done : s.exec input (.eraseStoppingContext inCall userId context) =
      ({ s with
          userStoppingContexts := Function.update s.userStoppingContexts userId none
          userStateMap := Function.update s.userStateMap userId none }, UserPiece.afterStop inCall userId) := by
    simp only [exec, UserLifecycleManager.eraseStoppingContext, entry, state, if_true]
  have gone : ({ s with
      userStoppingContexts := Function.update s.userStoppingContexts userId none
      userStateMap := Function.update s.userStateMap userId none } : UserLifecycleManager).view userId =
      .absent := by
    rw [view_eq_iff]
    simp [UserView.absent, missing, valid]
  apply good.advance userId rfl done
  · refine ⟨none, ?_, accounted.of_eq rfl rfl rfl fun _ => .inr rfl⟩
    cases inCall with
    | true =>
        obtain ⟨-, single, still, empty, -⟩ := ((at_cons_of_holds rfl).mp stands).of_eraseInCall
        rw [UserPiece.afterStop, if_pos rfl, List.singleton_append, at_cons_of_holds rfl, gone, single, still]
        exact empty ▸ .absent (.one _ rfl)
    | false =>
        obtain ⟨-, idle, still, empty, -⟩ := ((at_cons_of_round rfl rfl).mp stands).of_erase
        rw [UserPiece.afterStop, if_neg Bool.false_ne_true, List.nil_append, At, gone, still]
        exact empty ▸ .absent idle
  · intro other different
    refine SameFor.of_view ?_ rfl rfl rfl rfl rfl
    simp [UserLifecycleManager.view, different]
  · refine ⟨good.bounded.destroyed, good.bounded.contexts, good.bounded.single, good.bounded.finalizing, ?_⟩
    intro other one stored
    by_cases same : other = userId
    · simp [same] at stored
    · exact good.bounded.stored other one (by simpa [same] using stored)
  · exact good.foreground

theorem Good.timeoutTask {context : UserStopping} (good : s.Good (.timeoutTask userId context :: others)) :
    (s.exec input (.timeoutTask userId context)).1.Good
      ((s.exec input (.timeoutTask userId context)).2 ++ others) := by
  by_cases waits : (userId, context) ∈ s.stopTasks
  · obtain ⟨live, stands, accounted⟩ := good.users userId
    have stage := (at_cons_of_plain rfl rfl).mp stands
    have own : (userId, context) ∈ s.tasks userId := by simpa [tasks] using waits
    obtain ⟨view, idle, none, single, rfl, unset⟩ := Stage.of_task stage own
    have done : s.exec input (.timeoutTask userId context) =
        ({ s with stopTasks := s.stopTasks.erase (userId, context) },
          [.completeUserStopping false userId context]) := by
      simp only [exec, waits, if_true]
    refine good.advance userId rfl done ⟨some context.manager, ?_, accounted.of_eq rfl rfl rfl .inl⟩ ?_
      (good.bounded.of_eq rfl rfl rfl rfl rfl) good.foreground
    · have taken : ({ s with stopTasks := s.stopTasks.erase (userId, context)
          } : UserLifecycleManager).tasks userId = [] := by
        simp only [tasks] at single ⊢
        rw [← List.erase_filter, single, List.erase_cons_head]
      rw [List.singleton_append, at_cons_of_round rfl rfl, none, taken]
      exact view ▸ .completing context unset idle
    · intro other different
      refine SameFor.of_view rfl ?_ rfl rfl rfl rfl
      simp only [tasks]
      rw [← List.erase_filter, List.erase_of_not_mem]
      simp [different.symm]
  · have done : s.exec input (.timeoutTask userId context) = (s, []) := by
      simp only [exec, waits, if_false]
    apply good.go userId rfl done
    intro live stands
    exact (at_cons_of_plain rfl rfl).mp stands

/-- A lookup has no part in the life cycle. -/
theorem Good.lookup {new : List UserPiece} (good : s.Good (piece :: others))
    (done : s.exec input piece = (s, new)) (plain : piece.userOf = none ∧ piece.releases = none)
    (plainNew : ∀ next ∈ new, next.userOf = none ∧ next.releases = none) :
    (s.exec input piece).1.Good ((s.exec input piece).2 ++ others) := by
  apply good.go piece.target rfl done
  intro live stands
  have stage := (at_cons_of_plain plain.1 plain.2).mp stands
  clear done
  induction new with
  | nil => exact stage
  | cons next rest hypothesis =>
      rw [List.cons_append, at_cons_of_plain (plainNew next List.mem_cons_self).1
        (plainNew next List.mem_cons_self).2]
      exact hypothesis fun other member => plainNew other (List.mem_cons_of_mem next member)

/-- What one piece does to the stages. -/
theorem Good.turn (good : s.Good (piece :: others))
    (free : ∀ userId, piece.needs = some userId → ∀ other ∈ others, other.releases ≠ some userId) :
    (s.exec input piece).1.Good ((s.exec input piece).2 ++ others) := by
  cases piece with
  | onUserStateChanged userId userState => exact good.onUserStateChanged (free userId rfl)
  | handleUserActivating userId => exact good.handleUserActivating
  | initManager userId => exact good.initManager
  | insertManager userId manager => exact good.insertManager
  | handleUserSwitching userId => exact good.handleUserSwitching
  | handleUserStopping userId => exact good.handleUserStopping
  | getSystemProcessNames userId manager => exact good.getSystemProcessNames
  | startUserStopping userId manager processNames => exact good.startUserStopping
  | postUserStopTimeoutTask userId context => exact good.postUserStopTimeoutTask
  | completeUserStopping inCall userId context => exact good.completeUserStopping
  | destroy inCall userId context => exact good.destroy
  | eraseStoppingContext inCall userId context => exact good.eraseStoppingContext
  | returned userId result =>
      apply good.go userId rfl rfl
      intro live stands
      exact stands.leave rfl rfl
  | timeoutTask userId context => exact good.timeoutTask
  | isUserStopping userId =>
      apply good.lookup rfl ⟨rfl, rfl⟩
      intro next member
      split at member
      · rw [List.mem_singleton.mp member]
        exact ⟨rfl, rfl⟩
      · rw [List.mem_singleton.mp member]
        exact ⟨rfl, rfl⟩
  | getStoppingMultiUserManager userId =>
      apply good.lookup rfl ⟨rfl, rfl⟩
      intro next member
      rw [List.mem_singleton.mp member]
      exact ⟨rfl, rfl⟩
  | getMultiUserManager userId =>
      apply good.lookup rfl ⟨rfl, rfl⟩
      intro next member
      rw [List.mem_singleton.mp member]
      exact ⟨rfl, rfl⟩
  | found userId manager => exact good.lookup rfl ⟨rfl, rfl⟩ nofun

theorem Good.perm (good : s.Good pieces) (same : pieces.Perm pieces') : s.Good pieces' := by
  refine ⟨?_, good.bounded, good.foreground⟩
  intro userId
  obtain ⟨live, stands, accounted⟩ := good.users userId
  exact ⟨live, Samgr.Stage.perm stands (same.filter _) (same.filter _), accounted⟩

end UserLifecycleManager

end Samgr
