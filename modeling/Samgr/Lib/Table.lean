import Mathlib.Data.List.Induction
import Std.Data.TreeMap.Lemmas

/-! Tables that are filled item by item, where an item replaces what has stood under its key. What is
left under a key is of the last item that has it. -/
namespace Table

variable {Key Item Value Other : Type*}

section LastOf

variable [DecidableEq Key] {keyOf : Item → Key} {key : Key} {items others : List Item}

/-- The last item with a key. -/
def lastOf (keyOf : Item → Key) (key : Key) (items : List Item) : Option Item :=
  items.reverse.find? fun item => keyOf item == key

@[simp] theorem lastOf_nil : lastOf keyOf key [] = none := rfl

theorem lastOf_append :
    lastOf keyOf key (items ++ others) = (lastOf keyOf key others).or (lastOf keyOf key items) := by
  rw [lastOf, List.reverse_append, List.find?_append]
  rfl

theorem lastOf_concat {item : Item} :
    lastOf keyOf key (items ++ [item]) = if keyOf item = key then some item else lastOf keyOf key items := by
  rw [lastOf_append]
  by_cases same : keyOf item = key <;> simp [lastOf, same]

theorem lastOf_map {f : Other → Item} {sources : List Other} :
    lastOf keyOf key (sources.map f) = (lastOf (keyOf ∘ f) key sources).map f := by
  rw [lastOf, ← List.map_reverse, List.find?_map]
  rfl

theorem keyOf_of_lastOf {item : Item} (found : lastOf keyOf key items = some item) :
    keyOf item = key :=
  eq_of_beq (List.find?_some (p := fun item => keyOf item == key) found)

theorem lastOf_isSome_iff :
    (lastOf keyOf key items).isSome = true ↔ ∃ item ∈ items, keyOf item = key := by
  simp [lastOf]

/-- A choice by the keys keeps an item or all that replace it. -/
theorem lastOf_filter {keep : Key → Bool} :
    lastOf keyOf key (items.filter fun item => keep (keyOf item)) =
      if keep key then lastOf keyOf key items else none := by
  induction items using List.reverseRecOn with
  | nil => simp
  | append_singleton items item hypothesis =>
      rw [List.filter_append, lastOf_append, hypothesis, lastOf_concat]
      by_cases same : keyOf item = key
      · subst same
        cases kept : keep (keyOf item) <;> simp [lastOf, kept]
      · have other : lastOf keyOf key ([item].filter fun item => keep (keyOf item)) = none := by
          cases kept : keep (keyOf item) <;> simp [lastOf, kept, same]
        rw [other, Option.none_or, if_neg same]

end LastOf

section Fill

variable [Ord Key] {keyOf : Item → Key} {valueOf : Item → Value} {table : Std.TreeMap Key Value}
  {key : Key} {items : List Item}

/-- The table after all items are put into it. -/
def fill (keyOf : Item → Key) (valueOf : Item → Value) (table : Std.TreeMap Key Value)
    (items : List Item) : Std.TreeMap Key Value :=
  items.foldl (fun table item => table.insert (keyOf item) (valueOf item)) table

theorem fill_append {others : List Item} :
    fill keyOf valueOf table (items ++ others) =
      fill keyOf valueOf (fill keyOf valueOf table items) others :=
  List.foldl_append

/-- The items that are left, in the order of their keys. -/
def left (table : Std.TreeMap Key Value) : List Value := table.toList.map Prod.snd

variable [Std.TransOrd Key] [Std.LawfulEqOrd Key] [DecidableEq Key]

theorem getElem?_fill :
    (fill keyOf valueOf table items)[key]? = ((lastOf keyOf key items).map valueOf).or table[key]? := by
  induction items using List.reverseRecOn with
  | nil => rfl
  | append_singleton items item hypothesis =>
      rw [fill_append, fill, List.foldl_cons, List.foldl_nil, Std.TreeMap.getElem?_insert, hypothesis,
        lastOf_concat]
      by_cases same : keyOf item = key
      · simp [same]
      · have other : compare (keyOf item) key ≠ .eq := fun equal =>
          same (Std.LawfulEqOrd.eq_of_compare equal)
        simp [same, other]

theorem getElem?_fill_empty :
    (fill keyOf valueOf ∅ items)[key]? = (lastOf keyOf key items).map valueOf := by
  simp [getElem?_fill]

theorem mem_fill_empty :
    key ∈ fill keyOf valueOf ∅ items ↔ ∃ item ∈ items, keyOf item = key := by
  rw [Std.TreeMap.mem_iff_isSome_getElem?, getElem?_fill_empty, Option.isSome_map, lastOf_isSome_iff]

theorem mem_left_fill {item : Item} :
    item ∈ left (fill keyOf id ∅ items) ↔ lastOf keyOf (keyOf item) items = some item := by
  rw [left, List.mem_map]
  constructor
  · rintro ⟨⟨key, value⟩, listed, rfl⟩
    rw [Std.TreeMap.mem_toList_iff_getElem?_eq_some, getElem?_fill_empty, Option.map_id] at listed
    rw [keyOf_of_lastOf listed]
    exact listed
  · intro last
    refine ⟨(keyOf item, item), ?_, rfl⟩
    rw [Std.TreeMap.mem_toList_iff_getElem?_eq_some, getElem?_fill_empty, last]
    rfl

theorem left_fill_pairwise :
    (left (fill keyOf id ∅ items)).Pairwise fun item other =>
      compare (keyOf item) (keyOf other) = .lt := by
  rw [left, List.pairwise_map]
  refine (Std.TreeMap.ordered_keys_toList (t := fill keyOf id ∅ items)).imp_of_mem ?_
  intro entry other listed next ordered
  rw [Std.TreeMap.mem_toList_iff_getElem?_eq_some, getElem?_fill_empty, Option.map_id] at listed next
  rw [keyOf_of_lastOf listed, keyOf_of_lastOf next]
  exact ordered

end Fill

end Table
