import Mathlib.Order.Lattice
import Std.Data.TreeMap.Lemmas

/-! Of the records of a list, one for each key: that with the largest measure, and among equal ones the
first. -/
namespace Maxima

variable {Record Key Measure : Type} [Ord Key] [LinearOrder Measure]

def keep (keyOf : Record → Key) (measure : Record → Measure) (best : Std.TreeMap Key Record)
    (record : Record) : Std.TreeMap Key Record :=
  match best[keyOf record]? with
  | none => best.insert (keyOf record) record
  | some known => if measure known < measure record then best.insert (keyOf record) record else best

/-- Every key of a record is there, with a record of the list that no other of the key exceeds. -/
structure Best (keyOf : Record → Key) (measure : Record → Measure) (best : Std.TreeMap Key Record)
    (records : List Record) : Prop where
  member : ∀ (key : Key) (record : Record), best[key]? = some record → record ∈ records
  own : ∀ (key : Key) (record : Record), best[key]? = some record → keyOf record = key
  most : ∀ (key : Key) (record : Record), best[key]? = some record →
    ∀ other ∈ records, keyOf other = key → measure other ≤ measure record
  covers : ∀ record ∈ records, keyOf record ∈ best

variable [Std.TransOrd Key] [Std.LawfulEqOrd Key] {keyOf : Record → Key} {measure : Record → Measure}
  {best : Std.TreeMap Key Record} {records : List Record}

omit [Std.LawfulEqOrd Key] in
theorem best_empty : Best keyOf measure ∅ [] where
  member key record found := by simp at found
  own key record found := by simp at found
  most key record found := by simp at found
  covers record member := by cases member

/-- A record that has the largest measure of its key takes the place of the key. -/
theorem Best.insert (good : Best keyOf measure best records) (record : Record)
    (most : ∀ known, best[keyOf record]? = some known → measure known ≤ measure record) :
    Best keyOf measure (best.insert (keyOf record) record) (records ++ [record]) where
  member key found present := by
    rw [Std.TreeMap.getElem?_insert] at present
    split at present
    · cases present
      exact List.mem_append_right _ (List.mem_singleton_self record)
    · exact List.mem_append_left _ (good.member key found present)
  own key found present := by
    rw [Std.TreeMap.getElem?_insert] at present
    split at present
    · rename_i same
      cases present
      exact Std.LawfulEqCmp.eq_of_compare same
    · exact good.own key found present
  most key found present other member sameKey := by
    rw [Std.TreeMap.getElem?_insert] at present
    rcases List.mem_append.mp member with old | new
    · split at present
      · rename_i same
        cases present
        have isKey : keyOf record = key := Std.LawfulEqCmp.eq_of_compare same
        have covered : key ∈ best := sameKey ▸ good.covers other old
        obtain ⟨known, there⟩ := Option.isSome_iff_exists.mp
          (Std.TreeMap.mem_iff_isSome_getElem?.mp covered)
        exact le_trans (good.most key known there other old sameKey) (most known (isKey ▸ there))
      · exact good.most key found present other old sameKey
    · rw [List.mem_singleton.mp new] at sameKey ⊢
      rw [if_pos (sameKey ▸ Std.ReflCmp.compare_self)] at present
      cases present
      exact le_rfl
  covers other member := by
    rw [Std.TreeMap.mem_insert]
    rcases List.mem_append.mp member with old | new
    · exact .inr (good.covers other old)
    · rw [List.mem_singleton.mp new]
      exact .inl Std.ReflCmp.compare_self

theorem Best.keep (good : Best keyOf measure best records) (record : Record) :
    Best keyOf measure (keep keyOf measure best record) (records ++ [record]) := by
  rw [Maxima.keep]
  split
  · rename_i fresh
    apply good.insert
    intro known there
    rw [fresh] at there
    cases there
  · rename_i known there
    split
    · rename_i less
      apply good.insert
      intro same present
      rw [there] at present
      cases present
      exact le_of_lt less
    · rename_i least
      refine ⟨?_, good.own, ?_, ?_⟩
      · intro key found present
        exact List.mem_append_left _ (good.member key found present)
      · intro key found present other member sameKey
        rcases List.mem_append.mp member with old | new
        · exact good.most key found present other old sameKey
        · rw [List.mem_singleton.mp new] at sameKey ⊢
          rw [← sameKey, there] at present
          cases present
          exact not_lt.mp least
      · intro other member
        rcases List.mem_append.mp member with old | new
        · exact good.covers other old
        · rw [List.mem_singleton.mp new, Std.TreeMap.mem_iff_isSome_getElem?, there]
          rfl

/-- Records that are kept one after another leave the best of each key. -/
theorem best_foldl (records : List Record) :
    Best keyOf measure (records.foldl (Maxima.keep keyOf measure) ∅) records := by
  have start : ∀ (rest seen : List Record) (best : Std.TreeMap Key Record),
      Best keyOf measure best seen →
        Best keyOf measure (rest.foldl (Maxima.keep keyOf measure) best) (seen ++ rest) := by
    intro rest
    induction rest with
    | nil =>
        intro seen best good
        rw [List.append_nil]
        exact good
    | cons record rest hypothesis =>
        intro seen best good
        have next := hypothesis (seen ++ [record]) _ (good.keep record)
        rw [List.append_assoc] at next
        exact next
  exact start records [] ∅ best_empty

/-- The records that are kept, of the keys that are asked for. -/
def chosen (best : Std.TreeMap Key Record) (wanted : Key → Bool) : List Record :=
  (best.toList.filter fun entry => wanted entry.1).map Prod.snd

theorem Best.mem_chosen (good : Best keyOf measure best records) {wanted : Key → Bool} {record : Record} :
    record ∈ chosen best wanted ↔ best[keyOf record]? = some record ∧ wanted (keyOf record) = true := by
  simp only [chosen, List.mem_map, List.mem_filter, Prod.exists,
    Std.TreeMap.mem_toList_iff_getElem?_eq_some]
  constructor
  · rintro ⟨key, _, ⟨there, isWanted⟩, rfl⟩
    have isKey := good.own key _ there
    subst isKey
    exact ⟨there, isWanted⟩
  · rintro ⟨there, isWanted⟩
    exact ⟨keyOf record, record, ⟨there, isWanted⟩, rfl⟩

/-- No two of them have one key. -/
theorem Best.nodup_chosen (good : Best keyOf measure best records) (wanted : Key → Bool) :
    ((chosen best wanted).map keyOf).Nodup := by
  have keys : (chosen best wanted).map keyOf =
      (best.toList.filter fun entry => wanted entry.1).map Prod.fst := by
    rw [chosen, List.map_map]
    refine List.map_congr_left ?_
    intro entry member
    have there := Std.TreeMap.mem_toList_iff_getElem?_eq_some.mp (List.mem_filter.mp member).1
    exact good.own entry.1 entry.2 there
  have all : (best.toList.map Prod.fst).Nodup := by
    rw [Std.TreeMap.map_fst_toList_eq_keys]
    exact Std.TreeMap.nodup_keys
  rw [keys]
  exact all.sublist ((List.filter_sublist).map Prod.fst)

end Maxima
