import Samgr.Manager.Frames
import Samgr.Lib.Obituary
import Samgr.Lib.Threads

/-! The death recipients of the two registries. An object is entered under the registry's lock and its
death recipient is added afterwards, so another call or the object's death can come in between. The death
of an ability's object takes the recipient back inside the section that takes out its id, the death of a
process's object before it. The objects are a parameter: `watch` and `unwatch` are their `AddDeathRecipient` and
`RemoveDeathRecipient` with the registry's recipient, and `tell` is one call of its `OnRemoteDied`; only an object
of another process is outside. The end of a user's manager, which takes out every key, is not among the calls. -/
namespace Samgr

namespace DeathWatch

open Obituary (Objects)

abbrev Registry (World Key : Type) [Ord Key] : Type := Obituary.Keeper World Key Nat

inductive Piece (Key : Type) where
  | insert (key : Key) (object : Nat)
  | addDeathRecipient (object : Nat)
  | erase (key : Key)
  | onRemoteDied (object : Nat)
  | removeDeathRecipient (object : Nat)
  | eraseObject (object : Nat)

/-- The objects that the piece will watch. -/
def Piece.adds {Key : Type} : Piece Key → List Nat
  | .addDeathRecipient object => [object]
  | _ => []

/-- The objects of which the piece will take out a key. -/
def Piece.erases {Key : Type} : Piece Key → List Nat
  | .eraseObject object => [object]
  | _ => []

section Owed

variable {Key : Type} {piece : Piece Key} {pieces others made : List (Piece Key)} {object : Nat}

def pending (pieces : List (Piece Key)) (object : Nat) : Nat := (pieces.flatMap Piece.adds).count object

def handling (pieces : List (Piece Key)) (object : Nat) : Nat := (pieces.flatMap Piece.erases).count object

theorem pending_append : pending (made ++ others) object = pending others object + pending made object := by
  rw [pending, List.flatMap_append, List.count_append, Nat.add_comm]
  rfl

theorem handling_append : handling (made ++ others) object = handling others object + handling made object := by
  rw [handling, List.flatMap_append, List.count_append, Nat.add_comm]
  rfl

theorem pending_perm (same : pieces.Perm others) : pending pieces object = pending others object :=
  (same.flatMap_right _).count_eq object

theorem handling_perm (same : pieces.Perm others) : handling pieces object = handling others object :=
  (same.flatMap_right _).count_eq object

end Owed

variable {World Key : Type} [Ord Key] (objects : Objects World Nat) (s : Registry World Key)

def insert (key : Key) (object : Nat) : Registry World Key × List (Piece Key) :=
  if s.table.size ≥ MAX_SERVICES then (s, []) else (s.store key object, [.addDeathRecipient object])

/-- The recipient of the object that is there is removed in the same section. -/
def erase (key : Key) : Registry World Key :=
  match s.table[key]? with
  | none => s
  | some object => (s.unwatch objects object).drop key

/-- A notice that reaches the recipient; a process's object loses the recipient at once. -/
def onRemoteDied (inSection : Bool) (object : Nat) : Registry World Key × List (Piece Key) :=
  if 0 < objects.notices s.world object then
    let noticed := s.tell objects object
    (if inSection then noticed else noticed.unwatch objects object, [.eraseObject object])
  else (s, [])

def eraseObject (inSection : Bool) (object : Nat) : Registry World Key :=
  match s.find object with
  | none => s
  | some key => if inSection then (s.drop key).unwatch objects object else s.drop key

def exec (inSection : Bool) : Piece Key → Registry World Key × List (Piece Key)
  | .insert key object => insert s key object
  | .addDeathRecipient object => (s.watch objects object, [])
  | .erase key => (erase objects s key, [])
  | .onRemoteDied object => onRemoteDied objects s inSection object
  | .removeDeathRecipient object => (s.unwatch objects object, [.eraseObject object])
  | .eraseObject object => (eraseObject objects s inSection object, [])

/-- The action is the death of an object. -/
def program {Call : Type} (enter : Call → List (Piece Key)) (inSection : Bool) :
    Threads.Program (Registry World Key) Call (Piece Key) Unit Nat Unit where
  enter _ := enter
  exec _ s := exec objects s inSection
  take _ := none
  act s object := s.die objects object
  needs _ _ := none
  releases _ := none

/-- Calls on the registry of abilities. -/
inductive AbilityCall where
  | addSystemAbility (systemAbilityId : Int) (ability : Nat) (isDistributed : Bool)
  | removeSystemAbility (systemAbilityId : Int)
  | removeDiedSystemAbility (systemAbilityId : Int)
  | onRemoteDied (ability : Nat)

def AbilityCall.enter (isDistributedSystemAbility : Int → Bool) : AbilityCall → List (Piece Int)
  | .addSystemAbility systemAbilityId ability isDistributed =>
      if checkInputSysAbilityId systemAbilityId ∧ isDistributed = isDistributedSystemAbility systemAbilityId then
        [.insert systemAbilityId ability]
      else []
  | .removeSystemAbility systemAbilityId =>
      if checkInputSysAbilityId systemAbilityId then [.erase systemAbilityId] else []
  | .removeDiedSystemAbility systemAbilityId => [.erase systemAbilityId]
  | .onRemoteDied ability => [.onRemoteDied ability]

/-- Calls on the registry of processes. -/
inductive ProcessCall where
  | addSystemProcess (procName : String) (procObject : Nat)
  | removeSystemProcess (procObject : Nat)
  | onRemoteDied (procObject : Nat)

def ProcessCall.enter : ProcessCall → List (Piece String)
  | .addSystemProcess procName procObject => if procName.isEmpty then [] else [.insert procName procObject]
  | .removeSystemProcess procObject => [.removeDeathRecipient procObject]
  | .onRemoteDied procObject => [.onRemoteDied procObject]

/-- `AddSystemAbility`, `RemoveSystemAbility` and the death of an ability's object. -/
def abilities (isDistributedSystemAbility : Int → Bool) :
    Threads.Program (Registry World Int) AbilityCall (Piece Int) Unit Nat Unit :=
  program objects (AbilityCall.enter isDistributedSystemAbility) true

/-- `AddSystemProcess`, `RemoveSystemProcess` and the death of a process's object. -/
def processes : Threads.Program (Registry World String) ProcessCall (Piece String) Unit Nat Unit :=
  program objects ProcessCall.enter false

/-- The registry of the base user's manager begins with the manager itself, which nobody watches. -/
def samgrOnly (world : World) (samgr : Nat) : Registry World Int :=
  { table := (∅ : Std.TreeMap Int Nat).insert 0 samgr, world, unwatched := [samgr] }

/-- Every key of every object is seen to; and whoever takes the recipient back in the same section as the
key is dealing with a dead object. -/
structure Kept (inSection : Bool) (s : Registry World Key) (pieces : List (Piece Key)) : Prop where
  covered : ∀ object, s.Covered objects (pending pieces object) (handling pieces object) object
  gone : inSection = true → ∀ object, .eraseObject object ∈ pieces → objects.dead s.world object
  noticed : inSection = true → ∀ object, .removeDeathRecipient object ∉ pieces

variable {objects s} {t : Registry World Key} {piece : Piece Key} {pieces others made : List (Piece Key)}
  {inSection : Bool}

theorem Kept.perm (same : pieces.Perm others) (kept : Kept objects inSection s pieces) :
    Kept objects inSection s others := by
  constructor
  · intro object
    rw [← pending_perm same, ← handling_perm same]
    exact kept.covered object
  · exact fun inside object member => kept.gone inside object (same.mem_iff.mpr member)
  · exact fun inside object member => kept.noticed inside object (same.mem_iff.mpr member)

/-- A call owes nothing yet. -/
def Opens {Call : Type} (inSection : Bool) (enter : Call → List (Piece Key)) : Prop :=
  ∀ call, ∀ piece ∈ enter call, piece.adds = [] ∧ piece.erases = [] ∧
    (inSection = true → ∀ object, piece ≠ .removeDeathRecipient object)

theorem Kept.call {Call : Type} {enter : Call → List (Piece Key)} (opens : Opens inSection enter)
    (kept : Kept objects inSection s pieces) (call : Call) : Kept objects inSection s (enter call ++ pieces) := by
  have nothing : ∀ object, pending (enter call) object = 0 ∧ handling (enter call) object = 0 := by
    intro object
    rw [pending, handling, List.flatMap_eq_nil_iff.mpr fun piece member => (opens call piece member).1,
      List.flatMap_eq_nil_iff.mpr fun piece member => (opens call piece member).2.1]
    exact ⟨rfl, rfl⟩
  constructor
  · intro object
    rw [pending_append, handling_append, (nothing object).1, (nothing object).2]
    exact kept.covered object
  · intro inside object member
    rcases List.mem_append.mp member with new | old
    · cases (opens call _ new).2.1
    · exact kept.gone inside object old
  · intro inside object member
    rcases List.mem_append.mp member with new | old
    · exact (opens call _ new).2.2 inside object rfl
    · exact kept.noticed inside object old

/-- What a piece has to show: that the keys are seen to by what it leaves to be done. -/
theorem Kept.pass (kept : Kept objects inSection s (piece :: others))
    (dead : objects.dead t.world = objects.dead s.world)
    (covered : ∀ object, s.Covered objects (pending others object + pending [piece] object)
        (handling others object + handling [piece] object) object →
      t.Covered objects (pending others object + pending made object)
        (handling others object + handling made object) object)
    (gone : inSection = true → ∀ object, .eraseObject object ∈ made → objects.dead s.world object)
    (noticed : ∀ object, .removeDeathRecipient object ∉ made) : Kept objects inSection t (made ++ others) := by
  constructor
  · intro object
    rw [pending_append, handling_append]
    apply covered object
    rw [← pending_append, ← handling_append]
    exact kept.covered object
  · rw [dead]
    intro inside object member
    rcases List.mem_append.mp member with new | old
    · exact gone inside object new
    · exact kept.gone inside object (List.mem_cons_of_mem _ old)
  · intro inside object member
    rcases List.mem_append.mp member with new | old
    · exact noticed object new
    · exact kept.noticed inside object (List.mem_cons_of_mem _ old)

/-- A piece that leaves nothing to be done. -/
theorem Kept.finish (kept : Kept objects inSection s (piece :: others))
    (dead : objects.dead t.world = objects.dead s.world)
    (covered : ∀ object, s.Covered objects (pending others object + pending [piece] object)
        (handling others object + handling [piece] object) object →
      t.Covered objects (pending others object) (handling others object) object) :
    Kept objects inSection t others :=
  @Kept.pass World Key _ objects s t piece others [] inSection kept dead covered
    (fun _ _ member => absurd member List.not_mem_nil) fun _ member => absurd member List.not_mem_nil

theorem dead_unwatch (documented : objects.Documented) (object : Nat) :
    objects.dead (s.unwatch objects object).world = objects.dead s.world :=
  (documented.unwatched_quietly s.world object).1

/-- The recipient only hears of dead objects. -/
theorem Kept.onRemoteDied (documented : objects.Documented) {object : Nat}
    (kept : Kept objects inSection s (.onRemoteDied object :: others)) :
    Kept objects inSection (DeathWatch.onRemoteDied objects s inSection object).1
      ((DeathWatch.onRemoteDied objects s inSection object).2 ++ others) := by
  rw [DeathWatch.onRemoteDied]
  split
  · rename_i there
    have gone : objects.dead s.world object := (kept.covered object).noticed there
    have told : objects.dead (s.tell objects object).world = objects.dead s.world :=
      (documented.told_quietly s.world object).1
    refine kept.pass ?_ (fun other covered => ?_) ?_ ?_
    · cases inSection
      · exact (dead_unwatch documented object).trans told
      · exact told
    · have noticed := covered.tell documented there
      cases inSection
      · exact noticed.unwatch_dead documented (told ▸ gone)
      · exact noticed
    · intro _ other member
      cases List.mem_singleton.mp member
      exact gone
    · exact fun _ member => nomatch List.mem_singleton.mp member
  · exact kept.finish rfl fun _ covered => covered

section Exec

variable [Std.TransOrd Key] [Std.LawfulEqOrd Key]

theorem Kept.insert {key : Key} {object : Nat} (kept : Kept objects inSection s (.insert key object :: others)) :
    Kept objects inSection (DeathWatch.insert s key object).1 ((DeathWatch.insert s key object).2 ++ others) := by
  rw [DeathWatch.insert]
  split
  · exact kept.finish rfl fun _ covered => covered
  · refine kept.pass rfl (fun other covered => ?_) ?_ ?_
    · exact covered.store
    · exact fun _ _ member => nomatch List.mem_singleton.mp member
    · exact fun _ member => nomatch List.mem_singleton.mp member

theorem Kept.erase (documented : objects.Documented) {key : Key}
    (kept : Kept objects inSection s (.erase key :: others)) :
    Kept objects inSection (DeathWatch.erase objects s key) others := by
  rw [DeathWatch.erase]
  split
  · exact kept.finish rfl fun _ covered => covered
  · rename_i object found
    exact kept.finish (dead_unwatch documented object) fun _ covered => (covered.unwatch documented).drop found

theorem Kept.eraseObject (documented : objects.Documented) {object : Nat}
    (kept : Kept objects inSection s (.eraseObject object :: others)) :
    Kept objects inSection (DeathWatch.eraseObject objects s inSection object) others := by
  have gone : inSection = true → objects.dead s.world object :=
    fun inside => kept.gone inside object List.mem_cons_self
  rw [DeathWatch.eraseObject]
  split
  · rename_i none
    exact kept.finish rfl fun _ covered => covered.missing none
  · rename_i key found
    have held := Obituary.Keeper.getElem?_of_find found
    cases inSection
    · exact kept.finish rfl fun _ covered => covered.drop held
    · exact kept.finish (dead_unwatch documented object) fun _ covered =>
        (covered.drop held).unwatch_dead documented (gone rfl)

theorem Kept.exec (documented : objects.Documented) (kept : Kept objects inSection s (piece :: others)) :
    Kept objects inSection (DeathWatch.exec objects s inSection piece).1
      ((DeathWatch.exec objects s inSection piece).2 ++ others) := by
  cases piece with
  | insert key object => exact kept.insert
  | addDeathRecipient object =>
      exact kept.finish (documented.watched_quietly s.world object).1 fun _ covered => covered.watch documented
  | erase key => exact kept.erase documented
  | onRemoteDied object => exact kept.onRemoteDied documented
  | removeDeathRecipient object =>
      refine kept.pass (dead_unwatch documented object) (fun _ covered => covered.unwatch documented) ?_
        fun _ member => ?_
      · exact fun inside => absurd List.mem_cons_self (kept.noticed inside object)
      · have same := List.mem_singleton.mp member
        cases same
  | eraseObject object => exact kept.eraseObject documented

variable {Call : Type} {enter : Call → List (Piece Key)}

theorem step_kept (documented : objects.Documented) (opens : Opens inSection enter)
    {x : Threads.Config (Registry World Key) (Piece Key)} {label : Threads.Label Call Unit Nat}
    (kept : Kept objects inSection x.shared x.inFlight) :
    Kept objects inSection (x.step (program objects enter inSection) label).shared
      (x.step (program objects enter inSection) label).inFlight := by
  refine Threads.Config.step_keeps (Kept objects inSection) ?_ ?_ ?_ ?_ ?_ kept
  · exact fun same good => good.perm same
  · exact fun call pieces good => good.call opens call
  · exact fun _ piece others _ _ _ good => good.exec documented
  · exact fun _ _ _ taken => nomatch taken
  · intro object _ good
    refine ⟨fun other => (good.covered other).die documented, fun inside other member => ?_, good.noticed⟩
    exact (documented.dead_die x.shared.world object other).mpr (.inr (good.gone inside other member))

/-- Nothing is under way. -/
def AtRest (objects : Objects World Nat) (x : Threads.Config (Registry World Key) (Piece Key)) : Prop :=
  x.inFlight = [] ∧ ∀ object, objects.notices x.shared.world object = 0

/-- A living object of another process has a recipient for each of its keys, and a dead one has no key but
those that it was already dead for when its recipient was added. -/
def Clear (objects : Objects World Nat) (s : Registry World Key) : Prop :=
  ∀ object, objects.outside object →
    (¬ objects.dead s.world object → s.holders object ≤ objects.watches s.world object) ∧
      (objects.dead s.world object → s.holders object ≤ s.unwatched.count object)

theorem kept_of_run (documented : objects.Documented) (opens : Opens inSection enter)
    {start : Registry World Key} (kept : Kept objects inSection start [])
    (labels : List (Threads.Label Call Unit Nat)) :
    let x := Runs.run (Threads.Config.step (program objects enter inSection)) { shared := start } labels
    Kept objects inSection x.shared x.inFlight ∧ (AtRest objects x → Clear objects x.shared) := by
  intro x
  have good : Kept objects inSection x.shared x.inFlight :=
    Runs.run_invariant
      (fun y : Threads.Config (Registry World Key) (Piece Key) => Kept objects inSection y.shared y.inFlight)
      (fun _ _ => step_kept documented opens) labels kept
  refine ⟨good, ?_⟩
  rintro ⟨returned, handled⟩ object there
  rw [returned] at good
  exact (good.covered object).at_rest (handled object) there

end Exec

theorem abilities_open (isDistributedSystemAbility : Int → Bool) :
    Opens true (AbilityCall.enter isDistributedSystemAbility) := by
  intro call piece member
  cases call with
  | addSystemAbility systemAbilityId ability isDistributed =>
      rw [AbilityCall.enter] at member
      split at member
      · cases List.mem_singleton.mp member
        exact ⟨rfl, rfl, fun _ _ same => nomatch same⟩
      · cases member
  | removeSystemAbility systemAbilityId =>
      rw [AbilityCall.enter] at member
      split at member
      · cases List.mem_singleton.mp member
        exact ⟨rfl, rfl, fun _ _ same => nomatch same⟩
      · cases member
  | removeDiedSystemAbility systemAbilityId =>
      cases List.mem_singleton.mp member
      exact ⟨rfl, rfl, fun _ _ same => nomatch same⟩
  | onRemoteDied ability =>
      cases List.mem_singleton.mp member
      exact ⟨rfl, rfl, fun _ _ same => nomatch same⟩

theorem processes_open : Opens false ProcessCall.enter := by
  intro call piece member
  cases call with
  | addSystemProcess procName procObject =>
      rw [ProcessCall.enter] at member
      split at member
      · cases member
      · cases List.mem_singleton.mp member
        exact ⟨rfl, rfl, fun inside => nomatch inside⟩
  | removeSystemProcess procObject =>
      cases List.mem_singleton.mp member
      exact ⟨rfl, rfl, fun inside => nomatch inside⟩
  | onRemoteDied procObject =>
      cases List.mem_singleton.mp member
      exact ⟨rfl, rfl, fun inside => nomatch inside⟩

section Start

variable {world : World}

theorem holders_of_empty {object : Nat} (empty : s.table = ∅) : s.holders object = 0 := by
  have none : (∅ : Std.TreeMap Key Nat).toList = [] := rfl
  rw [Obituary.Keeper.holders, Quota.all, empty, none]
  rfl

variable (fresh : ∀ object, objects.watches world object = 0 ∧ objects.notices world object = 0)
include fresh

theorem kept_empty : Kept objects inSection ({ world } : Registry World Key) [] := by
  constructor
  · intro object
    refine ⟨?_, fun _ => (fresh object).1, fun noticed => ?_, fun early => (nomatch early)⟩
    · rw [holders_of_empty rfl]
      exact Nat.zero_le _
    · exact absurd ((fresh object).2 ▸ (noticed : 0 < objects.notices world object)) (Nat.lt_irrefl 0)
  · exact fun _ _ member => nomatch member
  · exact fun _ _ member => nomatch member

theorem kept_samgrOnly {samgr : Nat} (own : ¬ objects.outside samgr) :
    Kept objects true (samgrOnly world samgr) [] := by
  constructor
  · intro object
    refine ⟨?_, fun _ => (fresh object).1, fun noticed => ?_, fun early there => ?_⟩
    · have stored : (samgrOnly world samgr).holders object + _ = _ :=
        @Obituary.Keeper.holders_store World Int Nat _ _ { world, unwatched := [samgr] } 0 object samgr _ _
      have none : Obituary.Keeper.holders ({ world, unwatched := [samgr] } : Registry World Int) object = 0 :=
        holders_of_empty rfl
      rw [none, Nat.zero_add] at stored
      change (samgrOnly world samgr).holders object ≤
        objects.watches world object + 0 + objects.notices world object + 0 + [samgr].count object
      omega
    · exact absurd ((fresh object).2 ▸ (noticed : 0 < objects.notices world object)) (Nat.lt_irrefl 0)
    · exact absurd there (List.mem_singleton.mp early ▸ own)
  · exact fun _ _ member => nomatch member
  · exact fun _ _ member => nomatch member

end Start

section Sections

variable {m : Manager} {s : Registry World Int} {t : Registry World String} {systemAbilityId : Int}
  {procName : String} {object : Nat}

/-- The objects of the manager's abilities. -/
def Shows (s : Registry World Int) (m : Manager) : Prop :=
  ∀ systemAbilityId : Int, s.table[systemAbilityId]? = m.abilityMap[systemAbilityId]?.map SAInfo.remoteObj

/-- The objects of the manager's processes. -/
def ShowsProcesses (t : Registry World String) (m : Manager) : Prop :=
  ∀ procName : String, t.table[procName]? = m.systemProcessMap[procName]?

/-- What a section of the manager is to the registry of abilities. -/
def ofAbilities : Samgr.Piece → Option (Piece Int)
  | .insertAbility systemAbilityId saInfo => some (.insert systemAbilityId saInfo.remoteObj)
  | .eraseAbility systemAbilityId | .eraseDiedAbility systemAbilityId => some (.erase systemAbilityId)
  | .eraseObject ability => some (.eraseObject ability)
  | _ => none

/-- What a section of the manager is to the registry of processes. -/
def ofProcesses : Samgr.Piece → Option (Piece String)
  | .insertProcess processInfo procObject => some (.insert processInfo.processName procObject)
  | .eraseProcess procObject => some (.eraseObject procObject)
  | _ => none

/-- The registry after the piece, if there is one. -/
def execOf (objects : Objects World Nat) (inSection : Bool) (s : Registry World Key) (piece : Option (Piece Key)) :
    Registry World Key :=
  match piece with
  | none => s
  | some piece => (exec objects s inSection piece).1

theorem Shows.toList (shows : Shows s m) :
    s.table.toList = m.abilityMap.toList.map fun entry => (entry.1, entry.2.remoteObj) := by
  have same : s.table.toList = (m.abilityMap.map fun _ saInfo => saInfo.remoteObj).toList := by
    refine Std.TreeMap.Equiv.toList_eq (Std.TreeMap.Equiv.of_forall_constGet?_eq fun key => ?_)
    rw [shows key, Std.TreeMap.getElem?_map]
  exact same.trans Std.TreeMap.toList_map

theorem ShowsProcesses.toList (shows : ShowsProcesses t m) : t.table.toList = m.systemProcessMap.toList :=
  Std.TreeMap.Equiv.toList_eq (Std.TreeMap.Equiv.of_forall_constGet?_eq shows)

theorem Shows.find (shows : Shows s m) : s.find object = m.findObject object := by
  rw [Obituary.Keeper.find, Manager.findObject, shows.toList, List.find?_map, Option.map_map]
  rfl

theorem ShowsProcesses.find (shows : ShowsProcesses t m) : t.find object = m.findProcess object := by
  rw [Obituary.Keeper.find, Manager.findProcess, shows.toList]

theorem Shows.store {saInfo : SAInfo} {n : Manager} (shows : Shows s m)
    (stored : n.abilityMap = m.abilityMap.insert systemAbilityId saInfo) :
    Shows (s.store systemAbilityId saInfo.remoteObj) n := by
  intro other
  rw [stored]
  change (s.table.insert _ _)[other]? = ((m.abilityMap.insert _ _)[other]?).map _
  rw [Std.TreeMap.getElem?_insert, Std.TreeMap.getElem?_insert]
  split
  · rfl
  · exact shows other

theorem ShowsProcesses.store (shows : ShowsProcesses t m) :
    ShowsProcesses (t.store procName object)
      { m with systemProcessMap := m.systemProcessMap.insert procName object } := by
  intro other
  change (t.table.insert _ _)[other]? = (m.systemProcessMap.insert _ _)[other]?
  rw [Std.TreeMap.getElem?_insert, Std.TreeMap.getElem?_insert]
  split
  · rfl
  · exact shows other

theorem Shows.drop (shows : Shows s m) :
    Shows (s.drop systemAbilityId) (m.setRegistry (m.abilityMap.erase systemAbilityId)) := by
  intro other
  change (s.table.erase _)[other]? = ((m.abilityMap.erase _)[other]?).map _
  rw [Std.TreeMap.getElem?_erase, Std.TreeMap.getElem?_erase]
  split
  · rfl
  · exact shows other

theorem ShowsProcesses.drop (shows : ShowsProcesses t m) :
    ShowsProcesses (t.drop procName) (m.eraseProcess procName) := by
  intro other
  change (t.table.erase _)[other]? = (m.systemProcessMap.erase _)[other]?
  rw [Std.TreeMap.getElem?_erase, Std.TreeMap.getElem?_erase]
  split
  · rfl
  · exact shows other

theorem Shows.insert {saInfo : SAInfo} (shows : Shows s m) :
    Shows (DeathWatch.insert s systemAbilityId saInfo.remoteObj).1
      ((m.insertAbility systemAbilityId saInfo).getD m) := by
  have size : s.table.size = m.abilityMap.size := by
    rw [← Std.TreeMap.length_toList, ← Std.TreeMap.length_toList, shows.toList, List.length_map]
  rw [Manager.insertAbility, DeathWatch.insert, size]
  split_ifs with full
  · exact shows
  · exact shows.store rfl
  · exact shows.store rfl

theorem ShowsProcesses.insert (shows : ShowsProcesses t m) :
    ShowsProcesses (DeathWatch.insert t procName object).1 ((m.insertProcess procName object).getD m) := by
  have size : t.table.size = m.systemProcessMap.size := by
    rw [← Std.TreeMap.length_toList, ← Std.TreeMap.length_toList, shows.toList]
  rw [Manager.insertProcess, DeathWatch.insert, size]
  split_ifs with full
  · exact shows
  · exact shows.store

theorem Shows.erase (shows : Shows s m) :
    Shows (DeathWatch.erase objects s systemAbilityId) ((m.eraseAbility systemAbilityId).getD m) := by
  rw [Manager.eraseAbility, DeathWatch.erase, shows systemAbilityId]
  by_cases there : systemAbilityId ∈ m.abilityMap
  · rw [if_pos there, Std.TreeMap.getElem?_eq_some_getElem there]
    exact @Shows.drop World m (s.unwatch objects _) systemAbilityId shows
  · rw [if_neg there, Std.TreeMap.getElem?_eq_none there]
    exact shows

/-- Whatever section of the manager runs, it does to the objects of its abilities what its piece does. -/
theorem Shows.exec (shows : Shows s m) (env : Env) (piece : Samgr.Piece) :
    Shows (execOf objects true s (ofAbilities piece)) (m.exec env piece).1 := by
  have keeps : Keeps piece.touches m (m.exec env piece).1 := exec_keeps piece
  cases piece with
  | insertAbility systemAbilityId saInfo =>
      have inserted : Shows (DeathWatch.insert s systemAbilityId saInfo.remoteObj).1 _ := shows.insert
      rw [Manager.exec]
      cases result : m.insertAbility systemAbilityId saInfo with
      | none | some n => rw [result] at inserted; exact inserted
  | eraseAbility systemAbilityId =>
      have erased : Shows (DeathWatch.erase objects s systemAbilityId) _ := shows.erase
      rw [Manager.exec]
      cases result : m.eraseAbility systemAbilityId with
      | none | some n => rw [result] at erased; exact erased
  | eraseDiedAbility systemAbilityId =>
      have erased : Shows (DeathWatch.erase objects s systemAbilityId) _ := shows.erase
      rw [Manager.exec]
      cases result : m.eraseAbility systemAbilityId with
      | none | some n => rw [result] at erased; exact erased
  | eraseObject ability =>
      change Shows (DeathWatch.eraseObject objects s true ability) _
      rw [Manager.exec, DeathWatch.eraseObject, shows.find]
      cases m.findObject ability with
      | none => exact shows
      | some systemAbilityId => exact @Shows.drop World m s systemAbilityId shows
  | _ =>
      intro other
      rw [(keeps .registry (by simp [Samgr.Piece.touches])).1]
      exact shows other

theorem ShowsProcesses.exec (shows : ShowsProcesses t m) (env : Env) (piece : Samgr.Piece) :
    ShowsProcesses (execOf objects false t (ofProcesses piece)) (m.exec env piece).1 := by
  have keeps : Keeps piece.touches m (m.exec env piece).1 := exec_keeps piece
  cases piece with
  | insertProcess processInfo procObject =>
      have inserted : ShowsProcesses (DeathWatch.insert t processInfo.processName procObject).1 _ := shows.insert
      rw [Manager.exec]
      cases result : m.insertProcess processInfo.processName procObject with
      | none | some n => rw [result] at inserted; exact inserted
  | eraseProcess procObject =>
      change ShowsProcesses (DeathWatch.eraseObject objects t false procObject) _
      rw [Manager.exec, DeathWatch.eraseObject, shows.find]
      cases m.findProcess procObject with
      | none => exact shows
      | some procName => exact shows.drop
  | _ =>
      intro other
      rw [keeps .processes (by simp [Samgr.Piece.touches])]
      exact shows other

end Sections

/-- Whatever calls, deaths and notices come in whatever order: every key of every object is seen to, only dead
objects and samgr's own go unwatched, and when nothing is under way an object that lives has a recipient for each of
its keys, and one that is dead has left the registry, but for the keys under which it was already dead when its
recipient was added. So it is for the abilities of the base user's manager, the abilities of another user's, and the
processes; and every section of the manager does to its two maps what its piece does here. -/
theorem dead_objects_leave_registries (objects : Objects World Nat) (documented : objects.Documented) (world : World)
    (fresh : ∀ object, objects.watches world object = 0 ∧ objects.notices world object = 0) (samgr : Nat)
    (own : ¬ objects.outside samgr) (isDistributedSystemAbility : Int → Bool)
    (onAbilities : List (Threads.Label AbilityCall Unit Nat))
    (onProcesses : List (Threads.Label ProcessCall Unit Nat)) :
    let runAbilities (start : Registry World Int) :=
      Runs.run (Threads.Config.step (abilities objects isDistributedSystemAbility)) { shared := start } onAbilities
    let runProcesses := Runs.run (Threads.Config.step (processes objects)) { shared := { world } } onProcesses
    (∀ start ∈ [samgrOnly world samgr, { world }],
      Kept objects true (runAbilities start).shared (runAbilities start).inFlight ∧
        (AtRest objects (runAbilities start) → Clear objects (runAbilities start).shared)) ∧
      (Kept objects false runProcesses.shared runProcesses.inFlight ∧
        (AtRest objects runProcesses → Clear objects runProcesses.shared)) ∧
      ∀ (m : Manager) (env : Env) (piece : Samgr.Piece) (s : Registry World Int) (t : Registry World String),
        (Shows s m → Shows (execOf objects true s (ofAbilities piece)) (m.exec env piece).1) ∧
          (ShowsProcesses t m →
            ShowsProcesses (execOf objects false t (ofProcesses piece)) (m.exec env piece).1) := by
  intro runAbilities runProcesses
  have opens := abilities_open isDistributedSystemAbility
  refine ⟨?_, ?_, ?_⟩
  · intro start member
    have kept : Kept objects true start [] := by
      rcases List.mem_cons.mp member with rfl | member
      · exact kept_samgrOnly fresh own
      · cases List.mem_singleton.mp member
        exact kept_empty fresh
    exact kept_of_run documented opens kept onAbilities
  · exact kept_of_run documented processes_open (kept_empty fresh) onProcesses
  · exact fun m env piece s t => ⟨fun shows => shows.exec env piece, fun shows => shows.exec env piece⟩

/-- Objects that are written down, of which number 0 is samgr's own. -/
def ownZero : Objects (Obituary.Ledger Nat) Nat := Obituary.Ledger.objects (· ≠ 0)

/-- The object of a process registers, is watched, and dies: it leaves the registry. -/
def diesWatched : List (Threads.Label ProcessCall Unit Nat) :=
  [.call (.addSystemProcess "host" 7), .run (some 0) (), .run (some 0) (), .act 7,
    .call (.onRemoteDied 7), .run (some 1) (), .run (some 1) ()]

theorem watched_process_leaves :
    let x := Runs.run (Threads.Config.step (processes ownZero)) { shared := { world := {} } } diesWatched
    x.shared.holders 7 = 0 := by
  intro x
  have documented : ownZero.Documented := Obituary.Ledger.documented (· ≠ 0)
  have run := (dead_objects_leave_registries ownZero documented {} (fun _ => ⟨rfl, rfl⟩) 0 (fun there => there rfl)
    (fun _ => false) [] diesWatched).2.1.2
  have returned : x.inFlight = [] := List.eq_nil_of_length_eq_zero (by decide +kernel)
  have told : x.shared.world.notices = Function.update (Function.update (fun _ => 0) 7 1) 7 0 := rfl
  have handled : ∀ object, x.shared.world.notices object = 0 := by
    intro object
    rw [told, Function.update_idem, Function.update_apply]
    split <;> rfl
  have dead : (7 : Nat) ∈ x.shared.world.dead := by decide +kernel
  have left : x.shared.holders 7 ≤ x.shared.unwatched.count 7 :=
    (run ⟨returned, handled⟩ 7 (by decide : (7 : Nat) ≠ 0)).2 dead
  have early : x.shared.unwatched.count 7 = 0 := by decide +kernel
  rw [early] at left
  exact Nat.le_zero.mp left

/-- A process dies between the two steps of its registration, and stays in the registry. -/
example :
    let x := Runs.run (Threads.Config.step (processes ownZero)) { shared := { world := {} } }
      [.call (.addSystemProcess "host" 7), .run (some 0) (), .act 7, .run (some 0) ()]
    x.inFlight.length = 0 ∧ x.shared.world.dead = [7] ∧ x.shared.table["host"]? = some 7 := by decide +kernel

end DeathWatch

end Samgr
