import Mathlib.Data.List.Nodup
import Mathlib.Data.List.Basic

/-! Lists that are used as maps: an entry is found by its key, and no two entries of a list
have one key. -/
namespace Keyed

variable {Entry Key : Type} [DecidableEq Key] {keyOf : Entry → Key} {list : List Entry}
  {entry : Entry} {key other : Key}

/-- The first entry with the key. -/
def find (keyOf : Entry → Key) (list : List Entry) (key : Key) : Option Entry :=
  list.find? fun entry => keyOf entry == key

theorem find_cons : find keyOf (entry :: list) key =
    if keyOf entry = key then some entry else find keyOf list key := by
  by_cases same : keyOf entry = key <;> simp [find, same]

theorem find_eq_none : find keyOf list key = none ↔ key ∉ list.map keyOf := by
  simp [find]

theorem find_eq_some (found : find keyOf list key = some entry) : entry ∈ list ∧ keyOf entry = key := by
  refine ⟨List.mem_of_find?_eq_some found, ?_⟩
  simpa using List.find?_some found

theorem find_of_mem (single : (list.map keyOf).Nodup) (member : entry ∈ list) :
    find keyOf list (keyOf entry) = some entry := by
  cases found : find keyOf list (keyOf entry) with
  | none => exact absurd (List.mem_map_of_mem member) (find_eq_none.mp found)
  | some first =>
      obtain ⟨inside, same⟩ := find_eq_some found
      rw [List.inj_on_of_nodup_map single inside member same]

theorem find_append : find keyOf (list ++ [entry]) key =
    (find keyOf list key).or (if keyOf entry = key then some entry else none) := by
  by_cases same : keyOf entry = key <;> simp [find, same]

theorem map_replaceF {f : Entry → Entry} (keeps : ∀ entry, keyOf entry = key → keyOf (f entry) = key) :
    (list.replaceF fun entry => if keyOf entry == key then some (f entry) else none).map keyOf =
      list.map keyOf := by
  induction list with
  | nil => rfl
  | cons head list hypothesis =>
      by_cases same : keyOf head = key
      · simp [same, keeps head same]
      · simpa [same] using hypothesis

/-- The first entry with the key is replaced. -/
theorem find_replaceF {f : Entry → Entry} (keeps : ∀ entry, keyOf entry = key → keyOf (f entry) = key) :
    find keyOf (list.replaceF fun entry => if keyOf entry == key then some (f entry) else none) other =
      if other = key then (find keyOf list key).map f else find keyOf list other := by
  induction list with
  | nil => simp [find]
  | cons head list hypothesis =>
      by_cases first : keyOf head = key
      · have replaced : ((head :: list).replaceF fun entry =>
            if keyOf entry == key then some (f entry) else none) = f head :: list := by
          simp [first]
        rw [replaced, find_cons, find_cons, find_cons, keeps head first, first]
        by_cases own : other = key
        · simp [own]
        · simp [own, Ne.symm own]
      · have kept : ((head :: list).replaceF fun entry =>
            if keyOf entry == key then some (f entry) else none) =
            head :: list.replaceF fun entry => if keyOf entry == key then some (f entry) else none := by
          simp [first]
        rw [kept, find_cons, find_cons, find_cons, hypothesis]
        by_cases own : other = key
        · subst own
          simp [first]
        · simp [own]

/-- The first entry with the key goes, and no other has it. -/
theorem find_eraseP (single : (list.map keyOf).Nodup) :
    find keyOf (list.eraseP fun entry => keyOf entry == key) other =
      if other = key then none else find keyOf list other := by
  induction list with
  | nil => simp [find]
  | cons head list hypothesis =>
      rw [List.map_cons, List.nodup_cons] at single
      by_cases first : keyOf head = key
      · subst first
        rw [List.eraseP_cons_of_pos (by simp), find_cons]
        by_cases own : other = keyOf head
        · subst own
          rw [if_pos rfl]
          exact find_eq_none.mpr single.1
        · rw [if_neg own, if_neg (Ne.symm own)]
      · rw [List.eraseP_cons_of_neg (by simpa using first), find_cons, find_cons, hypothesis single.2]
        by_cases own : other = key
        · subst own
          simp [first]
        · simp [own]

/-- All entries with the key go. -/
theorem find_filter_ne : find keyOf (list.filter fun entry => keyOf entry != key) other =
    if other = key then none else find keyOf list other := by
  induction list with
  | nil => simp [find]
  | cons head list hypothesis =>
      by_cases first : keyOf head = key
      · rw [List.filter_cons_of_neg (by simpa using first), hypothesis, find_cons, first]
        by_cases own : other = key
        · simp [own]
        · simp [own, Ne.symm own]
      · rw [List.filter_cons_of_pos (by simpa using first), find_cons, find_cons, hypothesis]
        by_cases own : other = key
        · subst own
          simp [first]
        · simp [own]

/-- All entries change, but not their keys. -/
theorem find_map {f : Entry → Entry} (keeps : ∀ entry, keyOf (f entry) = keyOf entry) :
    find keyOf (list.map f) key = (find keyOf list key).map f := by
  induction list with
  | nil => rfl
  | cons head list hypothesis =>
      rw [List.map_cons, find_cons, find_cons, hypothesis, keeps]
      split <;> rfl

/-- A mark for every entry that has the key and is kept is one mark at most. -/
theorem filterMap_key {Mark : Type} (key : Key) (single : (list.map keyOf).Nodup) (keep : Entry → Bool)
    (mark : Mark) :
    (list.filter keep).filterMap (fun entry => if keyOf entry = key then some mark else none) =
      (((find keyOf list key).filter keep).map fun _ => mark).toList := by
  induction list with
  | nil => rfl
  | cons head list hypothesis =>
      rw [List.map_cons, List.nodup_cons] at single
      have later := hypothesis single.2
      rw [find_cons]
      by_cases own : keyOf head = key
      · subst own
        rw [find_eq_none.mpr single.1] at later
        rw [if_pos rfl]
        by_cases kept : keep head = true
        · rw [List.filter_cons_of_pos kept, List.filterMap_cons, if_pos rfl, later]
          simp [Option.filter, kept]
        · rw [List.filter_cons_of_neg kept, later]
          simp [Option.filter, kept]
      · by_cases kept : keep head = true
        · simpa [kept, own] using later
        · simpa [kept, own] using later

end Keyed
