import Mathlib.Data.List.Nodup
import Mathlib.Data.List.Perm.Basic

/-! Quotas. Every entry of a collection is charged to an owner, and a map keeps the count of
each owner: a count is made when the first entry of its owner comes, and an owner whose count
has come down leaves the map. The entries themselves lie in the lists of a second map. -/
namespace Quota

section Counts

variable {Owner : Type} [Ord Owner]

abbrev Counts (Owner : Type) [Ord Owner] : Type := Std.TreeMap Owner Int

/-- What an absent owner counts as is zero. -/
def count (counts : Counts Owner) (owner : Owner) : Int := (counts[owner]?).getD 0

def charge (counts : Counts Owner) (owner : Owner) : Counts Owner :=
  counts.insert owner (count counts owner + 1)

/-- Takes one entry off the count of an owner that has one; `spent` says which counts leave
the map. -/
def release (spent : Int → Bool) (counts : Counts Owner) (owner : Owner) : Counts Owner :=
  match counts[owner]? with
  | none => counts
  | some charged =>
      if spent (charged - 1) then counts.erase owner else counts.insert owner (charged - 1)

def releaseAll (spent : Int → Bool) (counts : Counts Owner) (owners : List Owner) : Counts Owner :=
  owners.foldl (release spent) counts

/-- The count of the owner is that of so many entries; without entries it is not in the map. -/
def Holds (counts : Counts Owner) (owner : Owner) (entries : Nat) : Prop :=
  counts[owner]? = if entries = 0 then none else some (entries : Int)

/-- A count leaves the map when it has come down to zero, and not before. -/
def Settles (spent : Int → Bool) : Prop :=
  spent 0 = true ∧ ∀ left : Nat, spent ((left : Int) + 1) = false

theorem settles_eq_zero : Settles (· == 0) := by
  refine ⟨rfl, fun left => ?_⟩
  simp only [beq_eq_false_iff_ne]
  omega

theorem settles_le_zero : Settles (· ≤ 0) := by
  refine ⟨rfl, fun left => ?_⟩
  simp only [decide_eq_false_iff_not]
  omega

variable {counts : Counts Owner} {owner other : Owner} {entries : Nat}

theorem Holds.count_eq (good : Holds counts owner entries) : count counts owner = entries := by
  unfold Holds at good
  by_cases empty : entries = 0
  · simp [count, good, empty]
  · simp [count, good, empty]

theorem compare_ne [Std.LawfulEqOrd Owner] (apart : owner ≠ other) : ¬ compare owner other = .eq := by
  intro same
  exact apart (Std.LawfulEqCmp.eq_of_compare same)

theorem holds_empty [Std.TransOrd Owner] : Holds (∅ : Counts Owner) owner 0 := by
  simp [Holds]

variable [Std.TransOrd Owner] [Std.LawfulEqOrd Owner]

theorem Holds.charge (good : Holds counts owner entries) :
    Holds (charge counts owner) owner (entries + 1) := by
  have counted := good.count_eq
  simp [Holds, Quota.charge, counted]

theorem Holds.charge_of_ne (apart : owner ≠ other) (good : Holds counts other entries) :
    Holds (Quota.charge counts owner) other entries := by
  unfold Holds Quota.charge
  rw [Std.TreeMap.getElem?_insert, if_neg (compare_ne apart)]
  exact good

theorem Holds.charge_count [DecidableEq Owner] (good : Holds counts other entries) :
    Holds (Quota.charge counts owner) other (entries + [owner].count other) := by
  by_cases same : owner = other
  · subst same
    rw [List.count_singleton_self]
    exact good.charge
  · rw [List.count_singleton, if_neg (by simpa using same)]
    exact good.charge_of_ne same

variable {spent : Int → Bool}

theorem Holds.release (settles : Settles spent) (good : Holds counts owner (entries + 1)) :
    Holds (release spent counts owner) owner entries := by
  have found : counts[owner]? = some ((entries : Int) + 1) := by simpa [Holds] using good
  cases entries with
  | zero => simp [Holds, Quota.release, found, settles.1]
  | succ left =>
      have stays : spent ((left : Int) + 1) = false := settles.2 left
      simp [Holds, Quota.release, found, stays]

theorem Holds.release_of_ne (apart : owner ≠ other) (good : Holds counts other entries) :
    Holds (Quota.release spent counts owner) other entries := by
  unfold Holds Quota.release
  split
  · exact good
  · split
    · rw [Std.TreeMap.getElem?_erase, if_neg (compare_ne apart)]
      exact good
    · rw [Std.TreeMap.getElem?_insert, if_neg (compare_ne apart)]
      exact good

theorem Holds.releaseAll [DecidableEq Owner] (settles : Settles spent) {owners : List Owner}
    (good : Holds counts owner (entries + owners.count owner)) :
    Holds (releaseAll spent counts owners) owner entries := by
  induction owners generalizing counts with
  | nil => simpa [Quota.releaseAll] using good
  | cons head owners hypothesis =>
      refine hypothesis ?_
      by_cases same : head = owner
      · subst same
        rw [List.count_cons_self] at good
        exact Holds.release settles good
      · rw [List.count_cons_of_ne same] at good
        exact good.release_of_ne same

end Counts

section Lists

variable {Key Entry : Type} [Ord Key] [Std.TransOrd Key] [Std.LawfulEqOrd Key]

/-- The entries under a key; there are none under a key that is not in the map. -/
def listAt (lists : Std.TreeMap Key Entry) (entries : Entry → List Owner) (key : Key) : List Owner :=
  ((lists[key]?).map entries).getD []

/-- All entries of the map. -/
def all (lists : Std.TreeMap Key Entry) (entries : Entry → List Owner) : List Owner :=
  lists.toList.flatMap fun pair => entries pair.2

variable {Owner : Type} {lists changed : Std.TreeMap Key Entry} {entries : Entry → List Owner} {key : Key}

theorem getElem?_insert_of_ne {other : Key} {entry : Entry} (apart : other ≠ key) :
    (lists.insert key entry)[other]? = lists[other]? := by
  rw [Std.TreeMap.getElem?_insert, if_neg (compare_ne (Ne.symm apart))]

theorem getElem?_erase_of_ne {other : Key} (apart : other ≠ key) :
    (lists.erase key)[other]? = lists[other]? := by
  rw [Std.TreeMap.getElem?_erase, if_neg (compare_ne (Ne.symm apart))]

theorem getElem?_modify_of_ne {other : Key} {f : Entry → Entry} (apart : other ≠ key) :
    (lists.modify key f)[other]? = lists[other]? := by
  rw [Std.TreeMap.getElem?_modify, if_neg (compare_ne (Ne.symm apart))]

theorem toList_perm_erase : lists.toList.Perm
    (((lists[key]?).map (Prod.mk key)).toList ++ (lists.erase key).toList) := by
  have single : ∀ (other : Std.TreeMap Key Entry), other.toList.Nodup := by
    intro other
    refine other.distinct_keys_toList.imp fun {first second} distinct same => ?_
    subst same
    exact distinct Std.ReflCmp.compare_self
  refine (List.perm_ext_iff_of_nodup (single lists) ?_).mpr ?_
  · cases found : lists[key]? with
    | none => simpa [found] using single (lists.erase key)
    | some entry =>
        simp only [Option.map_some, Option.toList_some, List.singleton_append, List.nodup_cons]
        refine ⟨?_, single (lists.erase key)⟩
        rw [Std.TreeMap.mem_toList_iff_getElem?_eq_some]
        simp
  · intro ⟨other, entry⟩
    rw [List.mem_append, Std.TreeMap.mem_toList_iff_getElem?_eq_some,
      Std.TreeMap.mem_toList_iff_getElem?_eq_some, Std.TreeMap.getElem?_erase]
    by_cases same : key = other
    · subst same
      cases found : lists[key]? <;> simp [eq_comm]
    · have apart : ¬ compare key other = .eq := compare_ne same
      cases found : lists[key]? <;> simp [apart, Ne.symm same]

theorem all_perm_erase : (all lists entries).Perm
    (listAt lists entries key ++ all (lists.erase key) entries) := by
  have parts : lists.toList.Perm
      (((lists[key]?).map (Prod.mk key)).toList ++ (lists.erase key).toList) := toList_perm_erase
  refine (parts.flatMap_right _).trans ?_
  rw [List.flatMap_append]
  refine List.Perm.append_right _ ?_
  unfold listAt
  cases lists[key]? <;> simp

/-- When two maps differ under one key only, so do their entries. -/
theorem count_all_add [DecidableEq Owner] (agree : ∀ other, other ≠ key → changed[other]? = lists[other]?)
    (owner : Owner) :
    (all changed entries).count owner + (listAt lists entries key).count owner =
      (all lists entries).count owner + (listAt changed entries key).count owner := by
  have rest : (changed.erase key).toList = (lists.erase key).toList := by
    refine Std.TreeMap.Equiv.toList_eq (Std.TreeMap.Equiv.of_forall_constGet?_eq fun other => ?_)
    rw [Std.TreeMap.getElem?_erase, Std.TreeMap.getElem?_erase]
    split
    · rfl
    · rename_i apart
      refine agree other fun same => apart ?_
      rw [same]
      exact Std.ReflCmp.compare_self
  have same : all (changed.erase key) entries = all (lists.erase key) entries := by
    simp only [all, rest]
  have before : (all lists entries).Perm (listAt lists entries key ++ all (lists.erase key) entries) :=
    all_perm_erase
  have after : (all changed entries).Perm
      (listAt changed entries key ++ all (changed.erase key) entries) := all_perm_erase
  rw [before.count_eq owner, after.count_eq owner, List.count_append, List.count_append, same]
  omega

theorem count_all_of_same [DecidableEq Owner]
    (agree : ∀ other, other ≠ key → changed[other]? = lists[other]?)
    (same : listAt changed entries key = listAt lists entries key) (owner : Owner) :
    (all changed entries).count owner = (all lists entries).count owner := by
  have counted : (all changed entries).count owner + (listAt lists entries key).count owner =
      (all lists entries).count owner + (listAt changed entries key).count owner :=
    count_all_add agree owner
  rw [same] at counted
  omega

/-- A new last entry of one list. -/
theorem count_all_of_append [DecidableEq Owner]
    (agree : ∀ other, other ≠ key → changed[other]? = lists[other]?) {added : Owner}
    (after : listAt changed entries key = listAt lists entries key ++ [added]) (owner : Owner) :
    (all changed entries).count owner = (all lists entries).count owner + [added].count owner := by
  have counted : (all changed entries).count owner + (listAt lists entries key).count owner =
      (all lists entries).count owner + (listAt changed entries key).count owner :=
    count_all_add agree owner
  rw [after, List.count_append] at counted
  omega

theorem count_listAt_le [DecidableEq Owner] (owner : Owner) :
    (listAt lists entries key).count owner ≤ (all lists entries).count owner := by
  have parts : (all lists entries).Perm (listAt lists entries key ++ all (lists.erase key) entries) :=
    all_perm_erase
  rw [parts.count_eq, List.count_append]
  omega

/-- When each list is split in two, so is the whole. -/
theorem count_flatMap_add {Part Owner : Type} [DecidableEq Owner] {left gone whole : Part → List Owner}
    {owner : Owner} (parts : List Part) (split : ∀ part ∈ parts,
      (left part).count owner + (gone part).count owner = (whole part).count owner) :
    (parts.flatMap left).count owner + (parts.flatMap gone).count owner =
      (parts.flatMap whole).count owner := by
  induction parts with
  | nil => rfl
  | cons part parts hypothesis =>
      have first := split part List.mem_cons_self
      have rest := hypothesis fun other member => split other (List.mem_cons_of_mem part member)
      simp only [List.flatMap_cons, List.count_append]
      omega

omit [Std.TransOrd Key] [Std.LawfulEqOrd Key] in
/-- When the entries under each key are split in two and a key goes with its last entry, so is
the whole. -/
theorem count_filterMap_add [DecidableEq Owner] {left : Entry → Option Entry}
    {gone : Entry → List Owner} {owner : Owner}
    (split : ∀ entry, (((left entry).map entries).getD []).count owner + (gone entry).count owner =
      (entries entry).count owner) :
    (all (lists.filterMap fun _ entry => left entry) entries).count owner +
        (lists.toList.flatMap fun pair => gone pair.2).count owner =
      (all lists entries).count owner := by
  have parts : all (lists.filterMap fun _ entry => left entry) entries =
      lists.toList.flatMap fun pair => ((left pair.2).map entries).getD [] := by
    rw [all, Std.TreeMap.toList_filterMap]
    induction lists.toList with
    | nil => rfl
    | cons pair pairs hypothesis =>
        cases kept : left pair.2 <;> simp [kept, hypothesis]
  rw [parts]
  exact count_flatMap_add _ fun pair _ => split pair.2

end Lists

/-- The first entry that is looked for goes. -/
theorem count_eraseP_add {Entry Owner : Type} [DecidableEq Owner] (found : Entry → Bool)
    (ownerOf : Entry → Owner) (list : List Entry) (owner : Owner) :
    ((list.eraseP found).map ownerOf).count owner +
      (((list.find? found).map ownerOf).toList).count owner = (list.map ownerOf).count owner := by
  induction list with
  | nil => rfl
  | cons head list hypothesis =>
      cases first : found head with
      | true => simp [first, List.count_cons]
      | false =>
          simp only [List.eraseP_cons_of_neg (by simp [first] : ¬ found head = true),
            List.find?_cons_of_neg (by simp [first] : ¬ found head = true), List.map_cons, List.count_cons]
          omega

/-- In a list without doubles nothing of the kind is left when the first has gone. -/
theorem ne_of_mem_eraseP {Entry Key : Type} [DecidableEq Key] {keyOf : Entry → Key} {key : Key}
    {list : List Entry} (single : (list.map keyOf).Nodup) :
    ∀ entry ∈ list.eraseP (fun other => keyOf other == key), keyOf entry ≠ key := by
  intro entry member same
  induction list with
  | nil => cases member
  | cons head list hypothesis =>
      rw [List.map_cons, List.nodup_cons] at single
      by_cases first : keyOf head = key
      · rw [List.eraseP_cons_of_pos (by simpa using first)] at member
        exact single.1 (List.mem_map.mpr ⟨entry, member, by rw [same, first]⟩)
      · rw [List.eraseP_cons_of_neg (by simpa using first)] at member
        rcases List.mem_cons.mp member with rfl | member
        · exact first same
        · exact hypothesis single.2 member

/-- To take the first out is to take all out, where there are no two. -/
theorem eraseP_eq_filter_iff {Entry : Type} {found : Entry → Bool} {list : List Entry} :
    list.eraseP found = list.filter (fun entry => !found entry) ↔ list.countP found ≤ 1 := by
  induction list with
  | nil => simp
  | cons head list hypothesis =>
      cases first : found head with
      | false => simp [first, hypothesis]
      | true =>
          have none : list.countP found = 0 ↔ list.filter (fun entry => !found entry) = list := by
            simp
          rw [List.eraseP_cons_of_pos first, List.countP_cons_of_pos first]
          simp only [List.filter_cons, first, Bool.not_true, Bool.false_eq_true, if_false]
          rw [eq_comm, ← none]
          omega

theorem toList_find?_eq_filter {Entry : Type} {found : Entry → Bool} {list : List Entry}
    (single : list.countP found ≤ 1) : (list.find? found).toList = list.filter found := by
  induction list with
  | nil => rfl
  | cons head list hypothesis =>
      cases first : found head with
      | false => simpa [first] using hypothesis (by simpa [first] using single)
      | true =>
          have none : list.filter found = [] := by
            rw [List.countP_cons_of_pos first] at single
            rw [← List.length_eq_zero_iff, ← List.countP_eq_length_filter]
            omega
          simp [first, none]

end Quota
