import Samgr.Lib.Quota
import Mathlib.Logic.Function.Basic

/-! Objects that are kept under keys and can die. Whoever stores an object watches it for its death
afterwards, with a watch for each time it has been stored; a death is noticed once for each watch there is,
and each notice takes one key of the object out. A dead object is not watched any more. -/
namespace Obituary

/-- The objects and who watches them. An object outside can die and can be watched; `watches` is how many
watches it has and `notices` how often its death has still to be told. -/
structure Objects (World Object : Type) where
  outside : Object → Prop
  dead : World → Object → Prop
  watches : World → Object → Nat
  notices : World → Object → Nat
  watch : World → Object → World × Bool
  unwatch : World → Object → World
  die : World → Object → World
  tell : World → Object → World

section

variable {World Object : Type} [DecidableEq Object]

/-- How objects behave: a watch succeeds on a living object outside and fails on any other; one watch can be
taken back if there is one; a death takes the watches away, and each of them has then to be told of it. -/
structure Objects.Documented (objects : Objects World Object) : Prop where
  watched : ∀ world object, objects.outside object → ¬ objects.dead world object →
    (objects.watch world object).2 = true ∧ objects.watches (objects.watch world object).1 =
      Function.update (objects.watches world) object (objects.watches world object + 1)
  refused : ∀ world object, ¬ objects.outside object ∨ objects.dead world object →
    (objects.watch world object).2 = false ∧
      objects.watches (objects.watch world object).1 = objects.watches world
  watched_quietly : ∀ world object, objects.dead (objects.watch world object).1 = objects.dead world ∧
    objects.notices (objects.watch world object).1 = objects.notices world
  unwatched : ∀ world object, objects.watches (objects.unwatch world object) =
    Function.update (objects.watches world) object (objects.watches world object - 1)
  unwatched_quietly : ∀ world object, objects.dead (objects.unwatch world object) = objects.dead world ∧
    objects.notices (objects.unwatch world object) = objects.notices world
  dead_die : ∀ world object other,
    objects.dead (objects.die world object) other ↔ other = object ∨ objects.dead world other
  died : ∀ world object, ¬ objects.dead world object →
    objects.watches (objects.die world object) = Function.update (objects.watches world) object 0 ∧
      objects.notices (objects.die world object) = Function.update (objects.notices world) object
        (objects.notices world object + objects.watches world object)
  dies_once : ∀ world object, objects.dead world object →
    objects.watches (objects.die world object) = objects.watches world ∧
      objects.notices (objects.die world object) = objects.notices world
  told : ∀ world object, objects.notices (objects.tell world object) =
    Function.update (objects.notices world) object (objects.notices world object - 1)
  told_quietly : ∀ world object, objects.dead (objects.tell world object) = objects.dead world ∧
    objects.watches (objects.tell world object) = objects.watches world

/-- Objects that are written down. -/
structure Ledger (Object : Type) where
  dead : List Object := []
  watches : Object → Nat := fun _ => 0
  notices : Object → Nat := fun _ => 0

def Ledger.objects (outside : Object → Prop) [DecidablePred outside] : Objects (Ledger Object) Object where
  outside
  dead l object := object ∈ l.dead
  watches := Ledger.watches
  notices := Ledger.notices
  watch l object :=
    if outside object ∧ object ∉ l.dead then
      ({ l with watches := Function.update l.watches object (l.watches object + 1) }, true)
    else (l, false)
  unwatch l object := { l with watches := Function.update l.watches object (l.watches object - 1) }
  die l object :=
    if object ∈ l.dead then l
    else
      { dead := object :: l.dead
        watches := Function.update l.watches object 0
        notices := Function.update l.notices object (l.notices object + l.watches object) }
  tell l object := { l with notices := Function.update l.notices object (l.notices object - 1) }

theorem Ledger.documented (outside : Object → Prop) [DecidablePred outside] :
    (Ledger.objects outside).Documented where
  watched l object there living := by
    have both : outside object ∧ object ∉ l.dead := ⟨there, living⟩
    simp only [Ledger.objects, if_pos both, and_self]
  refused l object not := by
    have closed : ¬ (outside object ∧ object ∉ l.dead) := fun both => not.elim (· both.1) both.2
    simp only [Ledger.objects, if_neg closed, and_self]
  watched_quietly l object := by
    simp only [Ledger.objects]
    split <;> exact ⟨rfl, rfl⟩
  unwatched _ _ := rfl
  unwatched_quietly _ _ := ⟨rfl, rfl⟩
  dead_die l object other := by
    simp only [Ledger.objects]
    split
    · rename_i dead
      exact ⟨.inr, fun either => either.elim (· ▸ dead) id⟩
    · exact List.mem_cons
  died l object living := by
    have there : object ∉ l.dead := living
    simp only [Ledger.objects, if_neg there, and_self]
  dies_once l object dead := by
    have there : object ∈ l.dead := dead
    simp only [Ledger.objects, if_pos there, and_self]
  told _ _ := rfl
  told_quietly _ _ := ⟨rfl, rfl⟩

end

variable {World Key Object : Type} [Ord Key] [DecidableEq Object]

/-- `unwatched` are the objects that have been stored and could not be watched, each as often as that has
been so. -/
structure Keeper (World Key Object : Type) [Ord Key] where
  table : Std.TreeMap Key Object := ∅
  world : World
  unwatched : List Object := []

namespace Keeper

variable (objects : Objects World Object) (s : Keeper World Key Object)

def store (key : Key) (object : Object) : Keeper World Key Object :=
  { s with table := s.table.insert key object }

def drop (key : Key) : Keeper World Key Object := { s with table := s.table.erase key }

def watch (object : Object) : Keeper World Key Object :=
  let (world, watched) := objects.watch s.world object
  { s with world, unwatched := if watched then s.unwatched else object :: s.unwatched }

def unwatch (object : Object) : Keeper World Key Object := { s with world := objects.unwatch s.world object }

def die (object : Object) : Keeper World Key Object := { s with world := objects.die s.world object }

def tell (object : Object) : Keeper World Key Object := { s with world := objects.tell s.world object }

/-- The first key of the object. -/
def find (object : Object) : Option Key :=
  (s.table.toList.find? fun entry => entry.2 == object).map Prod.fst

/-- How many keys the object has. -/
def holders (object : Object) : Nat := (Quota.all s.table ([·])).count object

/-- Every key of the object is seen to: by a watch, by one who will watch it, by a notice, or by one who is
handling a notice; or it could not be watched, and then an object outside was dead. -/
structure Covered (pending handling : Nat) (object : Object) : Prop where
  seen : s.holders object ≤ objects.watches s.world object + pending + objects.notices s.world object + handling +
    s.unwatched.count object
  released : objects.dead s.world object → objects.watches s.world object = 0
  noticed : 0 < objects.notices s.world object → objects.dead s.world object
  early : object ∈ s.unwatched → objects.outside object → objects.dead s.world object

variable {objects s} {key : Key} {object other : Object} {pending handling : Nat}

theorem holders_of_not_found (none : s.find object = none) : s.holders object = 0 := by
  rw [holders, List.count_eq_zero, Quota.all, List.mem_flatMap]
  rintro ⟨entry, member, held⟩
  rw [find, Option.map_eq_none_iff, List.find?_eq_none] at none
  exact none entry member (beq_iff_eq.mpr (List.mem_singleton.mp held).symm)

section Documented

variable (documented : objects.Documented)
include documented

theorem watch_of_living (there : objects.outside other) (living : ¬ objects.dead s.world other) :
    (s.watch objects other).unwatched = s.unwatched ∧ objects.watches (s.watch objects other).world =
      Function.update (objects.watches s.world) other (objects.watches s.world other + 1) := by
  obtain ⟨watched, more⟩ := documented.watched s.world other there living
  refine ⟨?_, more⟩
  change (if (objects.watch s.world other).2 then s.unwatched else other :: s.unwatched) = s.unwatched
  rw [if_pos watched]

theorem watch_of_refused (not : ¬ objects.outside other ∨ objects.dead s.world other) :
    (s.watch objects other).unwatched = other :: s.unwatched ∧
      objects.watches (s.watch objects other).world = objects.watches s.world := by
  obtain ⟨refused, same⟩ := documented.refused s.world other not
  refine ⟨?_, same⟩
  change (if (objects.watch s.world other).2 then s.unwatched else other :: s.unwatched) = other :: s.unwatched
  rw [if_neg (refused ▸ Bool.false_ne_true)]

theorem Covered.watch (covered : s.Covered objects (pending + [other].count object) handling object) :
    (s.watch objects other).Covered objects pending handling object := by
  have dead : objects.dead (s.watch objects other).world = objects.dead s.world :=
    (documented.watched_quietly s.world other).1
  have notices : objects.notices (s.watch objects other).world = objects.notices s.world :=
    (documented.watched_quietly s.world other).2
  have seen := covered.seen
  rw [List.count_singleton] at seen
  by_cases not : ¬ objects.outside other ∨ objects.dead s.world other
  · obtain ⟨unwatched, watches⟩ := watch_of_refused documented not
    refine ⟨?_, ?_, ?_, ?_⟩
    · change s.holders object ≤ _
      rw [watches, notices, unwatched, List.count_cons]
      omega
    · rw [dead, watches]
      exact covered.released
    · rw [dead, notices]
      exact covered.noticed
    · rw [unwatched, dead]
      intro member there
      rcases List.mem_cons.mp member with rfl | old
      · exact not.resolve_left (absurd there)
      · exact covered.early old there
  · rw [not_or, not_not] at not
    obtain ⟨unwatched, watches⟩ := watch_of_living documented not.1 not.2
    refine ⟨?_, ?_, ?_, ?_⟩
    · change s.holders object ≤ _
      rw [watches, notices, unwatched, Function.update_apply]
      split
      · rename_i same
        rw [same] at seen ⊢
        rw [if_pos (beq_self_eq_true other)] at seen
        omega
      · rename_i apart
        rw [if_neg fun equal => apart (beq_iff_eq.mp equal).symm] at seen
        exact seen
    · rw [dead, watches]
      intro gone
      rw [Function.update_of_ne fun same : object = other => not.2 (same ▸ gone)]
      exact covered.released gone
    · rw [dead, notices]
      exact covered.noticed
    · rw [unwatched, dead]
      exact covered.early

/-- A watch that is taken back leaves the object to whoever takes a key of it out. -/
theorem Covered.unwatch (covered : s.Covered objects pending handling object) :
    (s.unwatch objects other).Covered objects pending (handling + [other].count object) object := by
  have watches : objects.watches (s.unwatch objects other).world = _ := documented.unwatched s.world other
  have dead : objects.dead (s.unwatch objects other).world = objects.dead s.world :=
    (documented.unwatched_quietly s.world other).1
  have notices : objects.notices (s.unwatch objects other).world = objects.notices s.world :=
    (documented.unwatched_quietly s.world other).2
  have seen := covered.seen
  refine ⟨?_, ?_, ?_, ?_⟩
  · change s.holders object ≤ _ + _ + _ + _ + s.unwatched.count object
    rw [watches, notices, Function.update_apply, List.count_singleton]
    split
    · rename_i same
      rw [same] at seen ⊢
      rw [if_pos (beq_self_eq_true other)]
      omega
    · omega
  · rw [dead, watches]
    intro gone
    rw [Function.update_apply]
    split
    · rename_i same
      rw [← same, covered.released gone]
    · exact covered.released gone
  · rw [dead, notices]
    exact covered.noticed
  · rw [dead]
    exact covered.early

/-- A dead object has no watch to take back. -/
theorem Covered.unwatch_dead (gone : objects.dead s.world other)
    (covered : s.Covered objects pending handling object) :
    (s.unwatch objects other).Covered objects pending handling object := by
  have dead : objects.dead (s.unwatch objects other).world = objects.dead s.world :=
    (documented.unwatched_quietly s.world other).1
  have notices : objects.notices (s.unwatch objects other).world = objects.notices s.world :=
    (documented.unwatched_quietly s.world other).2
  have watches : objects.watches (s.unwatch objects other).world object = objects.watches s.world object := by
    change objects.watches (objects.unwatch s.world other) object = _
    rw [documented.unwatched, Function.update_apply]
    split
    · rename_i equal
      rw [← equal, covered.released (equal ▸ gone)]
    · rfl
  refine ⟨?_, ?_, ?_, ?_⟩
  · rw [watches, notices]
    exact covered.seen
  · rw [dead, watches]
    exact covered.released
  · rw [dead, notices]
    exact covered.noticed
  · rw [dead]
    exact covered.early

theorem Covered.die (covered : s.Covered objects pending handling object) :
    (s.die objects other).Covered objects pending handling object := by
  have dead : ∀ one, objects.dead (s.die objects other).world one ↔ one = other ∨ objects.dead s.world one :=
    documented.dead_die s.world other
  by_cases gone : objects.dead s.world other
  · have same : ∀ one, objects.dead (s.die objects other).world one ↔ objects.dead s.world one :=
      fun one => (dead one).trans (or_iff_right_of_imp fun equal => equal ▸ gone)
    have watches : objects.watches (s.die objects other).world = objects.watches s.world :=
      (documented.dies_once s.world other gone).1
    have notices : objects.notices (s.die objects other).world = objects.notices s.world :=
      (documented.dies_once s.world other gone).2
    refine ⟨?_, ?_, ?_, ?_⟩
    · rw [watches, notices]
      exact covered.seen
    · rw [same, watches]
      exact covered.released
    · rw [same, notices]
      exact covered.noticed
    · rw [same]
      exact covered.early
  · have watches : objects.watches (s.die objects other).world = _ := (documented.died s.world other gone).1
    have notices : objects.notices (s.die objects other).world = _ := (documented.died s.world other gone).2
    have seen := covered.seen
    refine ⟨?_, ?_, ?_, ?_⟩
    · change s.holders object ≤ _ + _ + _ + _ + s.unwatched.count object
      rw [watches, notices, Function.update_apply, Function.update_apply]
      split
      · rename_i same
        rw [same] at seen ⊢
        omega
      · exact seen
    · rw [dead, watches, Function.update_apply]
      split
      · exact fun _ => rfl
      · rename_i apart
        exact fun either => covered.released (either.resolve_left apart)
    · rw [dead, notices, Function.update_apply]
      split
      · rename_i same
        exact fun _ => .inl same
      · exact fun noticed => .inr (covered.noticed noticed)
    · rw [dead]
      exact fun member there => .inr (covered.early member there)

/-- Whoever is told of the death will take a key out. -/
theorem Covered.tell (there : 0 < objects.notices s.world other)
    (covered : s.Covered objects pending handling object) :
    (s.tell objects other).Covered objects pending (handling + [other].count object) object := by
  have notices : objects.notices (s.tell objects other).world = _ := documented.told s.world other
  have dead : objects.dead (s.tell objects other).world = objects.dead s.world :=
    (documented.told_quietly s.world other).1
  have watches : objects.watches (s.tell objects other).world = objects.watches s.world :=
    (documented.told_quietly s.world other).2
  have seen := covered.seen
  refine ⟨?_, ?_, ?_, ?_⟩
  · change s.holders object ≤ _ + _ + _ + _ + s.unwatched.count object
    rw [watches, notices, Function.update_apply, List.count_singleton]
    split
    · rename_i same
      rw [same] at seen ⊢
      rw [if_pos (beq_self_eq_true other)]
      omega
    · omega
  · rw [dead, watches]
    exact covered.released
  · rw [dead, notices, Function.update_apply]
    split
    · rename_i same
      exact fun _ => same ▸ covered.noticed (same ▸ there)
    · exact covered.noticed
  · rw [dead]
    exact covered.early

end Documented

/-- One who handles a notice and finds no key has nothing to take out. -/
theorem Covered.missing (none : s.find other = none)
    (covered : s.Covered objects pending (handling + [other].count object) object) :
    s.Covered objects pending handling object := by
  refine ⟨?_, covered.released, covered.noticed, covered.early⟩
  have seen := covered.seen
  rw [List.count_singleton] at seen
  by_cases same : other = object
  · subst same
    rw [holders_of_not_found none]
    exact Nat.zero_le _
  · rw [if_neg (by simpa using same)] at seen
    exact seen

/-- With nobody about to watch or handling a notice, an object outside that lives has a watch for each key,
and one that is dead has no key but those it could not be watched for. -/
theorem Covered.at_rest (covered : s.Covered objects 0 0 object) (handled : objects.notices s.world object = 0)
    (there : objects.outside object) :
    (¬ objects.dead s.world object → s.holders object ≤ objects.watches s.world object) ∧
      (objects.dead s.world object → s.holders object ≤ s.unwatched.count object) := by
  have seen := covered.seen
  rw [handled] at seen
  constructor
  · intro living
    rw [List.count_eq_zero_of_not_mem fun member => living (covered.early member there)] at seen
    exact seen
  · intro dead
    rw [covered.released dead] at seen
    omega

section Keys

variable [Std.TransOrd Key] [Std.LawfulEqOrd Key]

theorem holders_store : (s.store key other).holders object + (Quota.listAt s.table ([·]) key).count object =
    s.holders object + [other].count object := by
  have stored : Quota.listAt (s.store key other).table ([·]) key = [other] := by
    simp [Quota.listAt, store]
  rw [← stored]
  exact Quota.count_all_add (fun _ apart => Quota.getElem?_insert_of_ne apart) object

theorem holders_drop (found : s.table[key]? = some other) :
    (s.drop key).holders object + [other].count object = s.holders object := by
  have gone : Quota.listAt (s.drop key).table ([·]) key = [] := by
    simp [Quota.listAt, drop]
  have there : Quota.listAt s.table ([·]) key = [other] := by
    simp [Quota.listAt, found]
  have counted := @Quota.count_all_add Key Object _ _ _ Object s.table (s.drop key).table ([·]) key _
    (fun _ apart => Quota.getElem?_erase_of_ne apart) object
  rw [gone, there, List.count_nil] at counted
  exact counted

theorem getElem?_of_find (found : s.find object = some key) : s.table[key]? = some object := by
  obtain ⟨⟨listed, held⟩, first, rfl⟩ := Option.map_eq_some_iff.mp found
  have same : held = object := by simpa using List.find?_some first
  rw [← same]
  exact Std.TreeMap.mem_toList_iff_getElem?_eq_some.mp (List.mem_of_find?_eq_some first)

/-- Whoever stores the object will watch it. -/
theorem Covered.store (covered : s.Covered objects pending handling object) :
    (s.store key other).Covered objects (pending + [other].count object) handling object := by
  refine ⟨?_, covered.released, covered.noticed, covered.early⟩
  have stored : (s.store key other).holders object + _ = _ := holders_store
  have seen := covered.seen
  change (s.store key other).holders object ≤ objects.watches s.world object + (pending + [other].count object) +
    objects.notices s.world object + handling + s.unwatched.count object
  omega

theorem Covered.drop (found : s.table[key]? = some other)
    (covered : s.Covered objects pending (handling + [other].count object) object) :
    (s.drop key).Covered objects pending handling object := by
  refine ⟨?_, covered.released, covered.noticed, covered.early⟩
  have dropped : (s.drop key).holders object + [other].count object = s.holders object := holders_drop found
  have seen := covered.seen
  change (s.drop key).holders object ≤ objects.watches s.world object + pending +
    objects.notices s.world object + handling + s.unwatched.count object
  omega

end Keys

end Keeper

end Obituary
