import Samgr.Manager.Entries
import Mathlib.Data.List.Nodup

/-! No callback is reported twice. Every entry carries a number of its own; the number is in
one place at a time: with the entry, with the failure task that was posted for it, or with
the report that was made of it. -/
namespace Samgr

/-- The number of the entry that a failure task is about to report. -/
def WorkTask.failing : WorkTask → Option Nat
  | .notifyLoadFail _ callbackItem => some callbackItem.id
  | _ => none

def Piece.failing : Piece → Option Nat
  | .notifyLoadFail _ callbackItem => some callbackItem.id
  | _ => none

/-- The number of the entry that was reported. -/
def Report.entry : Report → Option Nat
  | .onLoadSystemAbilitySuccess _ _ _ _ entry => entry
  | .onLoadSystemAbilityFail _ _ _ entry => some entry
  | _ => none

/-- The pieces that report entries. -/
def Piece.reportsEntries : Piece → Bool
  | .notifySystemAbilityLoaded _ _ | .onStartSystemAbilityFail _ _ _ | .notifyLoadFail _ _ => true
  | _ => false

namespace Manager

variable {env : Env} {m n : Manager} {piece : Piece} {pieces others : List Piece}

/-- The numbers that have left their entries. -/
def spent (m : Manager) (pieces : List Piece) : List Nat :=
  m.workHandler.marks WorkTask.failing ++
    (pieces.filterMap Piece.failing ++ m.reports.filterMap Report.entry)

theorem count_spent {id : Nat} : (m.spent pieces).count id =
    (m.workHandler.marks WorkTask.failing).count id +
      ((pieces.filterMap Piece.failing).count id + (m.reports.filterMap Report.entry).count id) := by
  simp only [spent, List.count_append]

/-- No two places hold the same number. -/
structure Numbered (m : Manager) (pieces : List Piece) : Prop where
  old : ∀ sa deviceId, ∀ entry ∈ m.callbacksOf sa deviceId, entry.id < m.nextEntry
  kept : ∀ sa deviceId, ∀ entry ∈ m.callbacksOf sa deviceId, entry.id ∉ m.spent pieces
  apart : ∀ sa deviceId id other, ∀ entry ∈ m.callbacksOf sa deviceId, ∀ twin ∈ m.callbacksOf id other,
    entry.id = twin.id → sa = id ∧ deviceId = other
  nodup : ∀ sa deviceId, ((m.callbacksOf sa deviceId).map CallbackItem.id).Nodup
  past : ∀ id ∈ m.spent pieces, id < m.nextEntry
  once : (m.spent pieces).Nodup

/-- Numbers that leave their entries for good. -/
theorem Numbered.spend (good : Numbered m pieces) (taken : List Nat) (single : taken.Nodup)
    (known : ∀ id ∈ taken, id < m.nextEntry ∧ id ∉ m.spent pieces)
    (entries : ∀ sa deviceId, (n.callbacksOf sa deviceId).Sublist (m.callbacksOf sa deviceId))
    (left : ∀ sa deviceId, ∀ entry ∈ n.callbacksOf sa deviceId, entry.id ∉ taken)
    (next : n.nextEntry = m.nextEntry)
    (counts : ∀ id, (n.spent others).count id ≤ taken.count id + (m.spent pieces).count id) :
    Numbered n others := by
  have source : ∀ id ∈ n.spent others, id ∈ taken ∨ id ∈ m.spent pieces := by
    intro id member
    have positive := List.count_pos_iff.mpr member
    have bound := counts id
    by_cases inside : id ∈ taken
    · exact Or.inl inside
    · rw [List.count_eq_zero.mpr inside] at bound
      exact Or.inr (List.count_pos_iff.mp (by omega))
  refine ⟨?_, ?_, ?_, ?_, ?_, ?_⟩
  · intro sa deviceId entry inside
    rw [next]
    exact good.old sa deviceId entry ((entries sa deviceId).mem inside)
  · intro sa deviceId entry inside gone
    rcases source entry.id gone with gone | gone
    · exact left sa deviceId entry inside gone
    · exact good.kept sa deviceId entry ((entries sa deviceId).mem inside) gone
  · intro sa deviceId id other entry inside twin found same
    exact good.apart sa deviceId id other entry ((entries sa deviceId).mem inside) twin
      ((entries id other).mem found) same
  · exact fun sa deviceId => (good.nodup sa deviceId).sublist ((entries sa deviceId).map _)
  · intro id member
    rw [next]
    rcases source id member with inside | inside
    · exact (known id inside).1
    · exact good.past id inside
  · rw [List.nodup_iff_count_le_one]
    intro id
    have bound := counts id
    have before := List.nodup_iff_count_le_one.mp good.once id
    have fresh := List.nodup_iff_count_le_one.mp single id
    by_cases inside : id ∈ taken
    · rw [List.count_eq_zero.mpr (known id inside).2] at bound
      omega
    · rw [List.count_eq_zero.mpr inside] at bound
      omega

/-- The same when no number leaves an entry. -/
theorem Numbered.fewer (good : Numbered m pieces)
    (entries : ∀ sa deviceId, (n.callbacksOf sa deviceId).Sublist (m.callbacksOf sa deviceId))
    (next : n.nextEntry = m.nextEntry)
    (counts : ∀ id, (n.spent others).count id ≤ (m.spent pieces).count id) :
    Numbered n others :=
  good.spend [] List.nodup_nil (fun _ member => absurd member List.not_mem_nil) entries
    (fun _ _ _ _ => List.not_mem_nil) next (fun id => by simpa using counts id)

theorem made_not_failing : (m.exec env piece).2.filterMap Piece.failing = [] := by
  rw [List.filterMap_eq_nil_iff]
  intro made member
  have follows := exec_follows member
  cases piece <;> simp only [Piece.Follows, Loading.EndsWith] at follows <;> grind [Piece.failing]

/-- Apart from a timeout no piece posts a failure task. -/
theorem exec_marks (other : ∀ sa srcDeviceId callback, piece ≠ .cleanCallback sa srcDeviceId callback) :
    (((m.exec env piece).1.workHandler).marks WorkTask.failing).Sublist
      (m.workHandler.marks WorkTask.failing) := by
  by_cases touched : Part.work ∈ piece.touches
  case neg =>
    have kept : (m.exec env piece).1.workHandler = m.workHandler := exec_keeps piece .work touched
    rw [kept]
  cases piece with
  | insertAbility sa saInfo =>
      simp only [exec, insertAbility]
      split
      · exact List.Sublist.refl _
      · rename_i inserted result
        split at result
        · cases result
        · cases result
          simp only [setRegistry]
          split
          · exact TaskQueue.marks_post_of_none rfl
          · exact List.Sublist.refl _
  | removeCheckLoadedMsg sa => exact TaskQueue.marks_removeTask sa
  | delTask sa => exact List.Sublist.refl _
  | sendSystemAbilityAddedMsg sa remoteObject =>
      exact TaskQueue.marks_post_of_none rfl
  | sendSystemAbilityRemovedMsg sa => exact TaskQueue.marks_post_of_none rfl
  | sendLoadedSystemAbilityMsg load remoteObject =>
      exact TaskQueue.marks_post_of_none rfl
  | sendCheckLoadedMsg load => exact TaskQueue.marks_postNamed_of_none rfl
  | addOnDemandSystemAbilityInfo sa procName =>
      simp only [exec, addOnDemandSystemAbilityInfo]
      split
      · exact List.Sublist.refl _
      · split
        · exact TaskQueue.marks_post_of_none rfl
        · exact List.Sublist.refl _
  | onStartSystemAbilityFail sa errCode process =>
      simp only [exec]
      rcases waiting_startFail (m := m) with same | removed
      · rw [same]
      · rw [removed]
        exact TaskQueue.marks_removeTask sa
  | cleanCallback sa srcDeviceId callback => exact absurd rfl (other sa srcDeviceId callback)
  | checkListenerNotify sa listener =>
      simp only [exec, checkListenerNotify]
      split
      · exact TaskQueue.marks_post_of_none rfl
      · exact List.Sublist.refl _
  | _ => simp [Piece.touches] at touched

theorem exec_entry_reports (plain : piece.reportsEntries = false) :
    (m.exec env piece).1.reports.filterMap Report.entry = m.reports.filterMap Report.entry := by
  obtain ⟨new, after, made⟩ := exec_reports env m piece
  have none : new.filterMap Report.entry = [] := by
    rw [List.filterMap_eq_nil_iff]
    intro report member
    have source := made report member
    cases piece with
    | findSystemAbilityNotify sa added =>
        obtain ⟨listener, rfl⟩ := source
        cases added <;> rfl
    | _ => grind [Report.MadeBy, Report.entry, Piece.reportsEntries]
  rw [after, List.filterMap_append, none, List.nil_append]

theorem Numbered.item_nodup (good : Numbered m pieces) {sa : Int} {item : AbilityItem}
    (found : m.startingAbilityMap[sa]? = some item) :
    (item.callbacks.map CallbackItem.id).Nodup := by
  have lists : ∀ pair ∈ item.callbackMap.toList, m.callbacksOf sa pair.1 = pair.2 := by
    intro pair member
    have entry := Std.TreeMap.mem_toList_iff_getElem?_eq_some.mp member
    simp [callbacksOf, itemAt_of_found found, AbilityItem.listOf, entry]
  rw [AbilityItem.callbacks, List.map_flatMap, List.nodup_flatMap]
  constructor
  · intro pair member
    rw [← lists pair member]
    exact good.nodup sa pair.1
  · refine Std.TreeMap.distinct_keys_toList.imp_of_mem fun {first second} inside found distinct => ?_
    intro id left right
    obtain ⟨entry, member, rfl⟩ := List.mem_map.mp left
    obtain ⟨twin, other, same⟩ := List.mem_map.mp right
    rw [← lists first inside] at member
    rw [← lists second found] at other
    have device := (good.apart sa first.1 sa second.1 entry member twin other same.symm).2
    exact distinct (by rw [device]; exact Std.ReflCmp.compare_self)

theorem count_spent_turn {id : Nat} : ((m.exec env piece).1.spent ((m.exec env piece).2 ++ others)).count id =
    ((m.exec env piece).1.workHandler.marks WorkTask.failing).count id +
      ((others.filterMap Piece.failing).count id +
        ((m.exec env piece).1.reports.filterMap Report.entry).count id) := by
  rw [count_spent, List.filterMap_append, made_not_failing, List.nil_append]

theorem count_spent_cons (id : Nat) :
    (m.spent others).count id ≤ (m.spent (piece :: others)).count id := by
  rw [count_spent, count_spent, List.filterMap_cons]
  split
  · exact Nat.le_refl _
  · rw [List.count_cons]
    omega

/-- An item that is reported gives the numbers of all its entries away. -/
theorem Numbered.report_item (good : Numbered m (piece :: others)) {sa : Int} {item : AbilityItem}
    {report : CallbackItem → Report} (found : m.startingAbilityMap[sa]? = some item)
    (numbered : ∀ entry, (report entry).entry = some entry.id)
    (map : n.startingAbilityMap = m.startingAbilityMap.erase sa) (next : n.nextEntry = m.nextEntry)
    (queue : (n.workHandler.marks WorkTask.failing).Sublist (m.workHandler.marks WorkTask.failing))
    (reports : n.reports = (item.callbacks.map report).reverse ++ m.reports) :
    Numbered n others := by
  have ids : (item.callbacks.map report).reverse.filterMap Report.entry =
      (item.callbacks.map CallbackItem.id).reverse := by
    rw [← List.map_reverse, ← List.map_reverse, List.filterMap_map]
    have same : Report.entry ∘ report = some ∘ CallbackItem.id := funext numbered
    rw [same, List.filterMap_eq_map]
  refine good.spend (item.callbacks.map CallbackItem.id) (good.item_nodup found) ?_ ?_ ?_ next ?_
  · intro id member
    obtain ⟨entry, inside, rfl⟩ := List.mem_map.mp member
    obtain ⟨deviceId, inside⟩ := AbilityItem.mem_callbacks.mp inside
    have inside : entry ∈ m.callbacksOf sa deviceId := by
      rw [callbacksOf, itemAt_of_found found]
      exact inside
    exact ⟨good.old sa deviceId entry inside, good.kept sa deviceId entry inside⟩
  · intro id deviceId
    rw [callbacksOf_erase map]
    split
    · exact List.nil_sublist _
    · exact List.Sublist.refl _
  · intro id deviceId entry inside member
    rw [callbacksOf_erase map] at inside
    split at inside
    · cases inside
    · rename_i other
      obtain ⟨twin, reported, same⟩ := List.mem_map.mp member
      obtain ⟨device, reported⟩ := AbilityItem.mem_callbacks.mp reported
      have reported : twin ∈ m.callbacksOf sa device := by
        rw [callbacksOf, itemAt_of_found found]
        exact reported
      exact other (good.apart id deviceId sa device entry inside twin reported same.symm).1
  · intro id
    have fewer := queue.count_le id
    have dropped : (m.spent others).count id ≤ (m.spent (piece :: others)).count id :=
      count_spent_cons id
    rw [count_spent] at dropped
    rw [count_spent, reports, List.filterMap_append, ids, List.count_append, List.count_reverse]
    omega

/-- A piece that reports no entry and posts no failure task spends nothing. -/
theorem count_spent_plain (plain : piece.reportsEntries = false)
    (other : ∀ sa srcDeviceId callback, piece ≠ .cleanCallback sa srcDeviceId callback) (id : Nat) :
    ((m.exec env piece).1.spent ((m.exec env piece).2 ++ others)).count id ≤
      (m.spent (piece :: others)).count id := by
  have dropped : (m.spent others).count id ≤ (m.spent (piece :: others)).count id :=
    count_spent_cons id
  have fewer : ((m.exec env piece).1.workHandler.marks WorkTask.failing).count id ≤
      (m.workHandler.marks WorkTask.failing).count id := (exec_marks other).count_le id
  rw [count_spent] at dropped
  rw [count_spent_turn, exec_entry_reports plain]
  omega

theorem numbered_clean {sa : Int} {srcDeviceId : String} {callback : RemoteInterface}
    (good : Numbered m (.cleanCallback sa srcDeviceId callback :: others)) :
    Numbered (m.exec env (.cleanCallback sa srcDeviceId callback)).1 others := by
  have move : EntryMove m (.cleanCallback sa srcDeviceId callback)
      (m.exec env (.cleanCallback sa srcDeviceId callback)).1
      (m.exec env (.cleanCallback sa srcDeviceId callback)).2 := exec_entries
  have reports : (m.exec env (.cleanCallback sa srcDeviceId callback)).1.reports = m.reports :=
    exec_keeps _ .reports (by simp [Piece.touches])
  have before : ∀ id, (m.spent (.cleanCallback sa srcDeviceId callback :: others)).count id =
      (m.spent others).count id := fun _ => rfl
  cases move with
  | same kept ids queue =>
      refine good.fewer (fun id deviceId => by rw [kept]) ids fun id => ?_
      have marks := queue _ _ _ rfl
      have same : ((m.exec env (.cleanCallback sa srcDeviceId callback)).1.spent others).count id =
          (m.spent (.cleanCallback sa srcDeviceId callback :: others)).count id := by
        rw [before, count_spent, count_spent, marks, reports]
      exact Nat.le_of_eq same
  | failed id device failedCallback found source failing posted after ids =>
      cases source
      have inside : found ∈ m.callbacksOf sa srcDeviceId := List.mem_of_find?_eq_some failing
      refine good.spend [found.id] (List.nodup_singleton _) ?_ ?_ ?_ ids ?_
      · intro number member
        rw [List.mem_singleton.mp member]
        exact ⟨good.old _ _ found inside, good.kept _ _ found inside⟩
      · intro other deviceId
        rw [after]
        split
        · exact List.filter_sublist
        · exact List.Sublist.refl _
      · intro other deviceId entry member same
        have same : entry.id = found.id := List.mem_singleton.mp same
        rw [after] at member
        split at member
        · rename_i own
          obtain ⟨rfl, rfl⟩ := own
          obtain ⟨member, differs⟩ := List.mem_filter.mp member
          have equal : entry = found :=
            List.inj_on_of_nodup_map (good.nodup other deviceId) member inside same
          simp [equal] at differs
        · rename_i elsewhere
          exact elsewhere (good.apart other deviceId sa srcDeviceId entry member found inside same)
      · intro number
        have marks : ((m.workHandler.post (.notifyLoadFail sa found)).marks WorkTask.failing).Perm
            ([found.id] ++ m.workHandler.marks WorkTask.failing) := TaskQueue.marks_post rfl
        rw [before, count_spent, count_spent, posted, reports, marks.count_eq, List.count_append]
        omega
  | added load entry source callback id since remote fresh after ids next => cases source
  | cleared id source after ids =>
      rcases source with ⟨remoteObject, source⟩ | ⟨errCode, process, source⟩ <;> cases source
  | died remoteObject source after ids => cases source

theorem numbered_startFail {sa errCode : Int} {process : String}
    (good : Numbered m (.onStartSystemAbilityFail sa errCode process :: others)) :
    Numbered (m.onStartSystemAbilityFail sa errCode process) others := by
  cases found : m.startingAbilityMap[sa]? with
  | none =>
      by_cases known : sa ∈ m.onDemandAbilityMap
      · simp only [onStartSystemAbilityFail, known, if_true, found]
        exact good.fewer (fun _ _ => List.Sublist.refl _) rfl count_spent_cons
      · simp only [onStartSystemAbilityFail, known, if_false, found]
        exact good.fewer (fun _ _ => List.Sublist.refl _) rfl count_spent_cons
  | some item =>
      by_cases known : sa ∈ m.onDemandAbilityMap
      · simp only [onStartSystemAbilityFail, known, if_true, found]
        exact good.report_item found (fun _ => rfl) rfl rfl (TaskQueue.marks_removeTask sa) rfl
      · simp only [onStartSystemAbilityFail, known, if_false, found]
        exact good.report_item found (fun _ => rfl) rfl rfl (TaskQueue.marks_removeTask sa) rfl

/-- A new entry takes a number that nothing has. -/
theorem Numbered.enroll (good : Numbered m pieces) {load : Loading} {entry : CallbackItem}
    (id : entry.id = m.nextEntry)
    (after : ∀ sa deviceId, n.callbacksOf sa deviceId =
      if sa = load.systemAbilityId ∧ deviceId = load.request.deviceId
      then m.callbacksOf sa deviceId ++ [entry] else m.callbacksOf sa deviceId)
    (ids : n.nextEntry = m.nextEntry + 1)
    (counts : ∀ id, (n.spent others).count id ≤ (m.spent pieces).count id) :
    Numbered n others := by
  have source : ∀ id ∈ n.spent others, id ∈ m.spent pieces := by
    intro id member
    exact List.count_pos_iff.mp (Nat.lt_of_lt_of_le (List.count_pos_iff.mpr member) (counts id))
  have split : ∀ sa deviceId, ∀ other ∈ n.callbacksOf sa deviceId, other ∈ m.callbacksOf sa deviceId ∨
      other = entry ∧ sa = load.systemAbilityId ∧ deviceId = load.request.deviceId := by
    intro sa deviceId other inside
    rw [after] at inside
    split at inside
    · rename_i own
      rcases List.mem_append.mp inside with inside | inside
      · exact Or.inl inside
      · exact Or.inr ⟨List.mem_singleton.mp inside, own⟩
    · exact Or.inl inside
  have above : ∀ sa deviceId, ∀ other ∈ m.callbacksOf sa deviceId, other.id ≠ entry.id := by
    intro sa deviceId other inside same
    have older := good.old sa deviceId other inside
    omega
  refine ⟨?_, ?_, ?_, ?_, ?_, ?_⟩
  · intro sa deviceId other inside
    rcases split sa deviceId other inside with inside | ⟨rfl, -⟩
    · have older := good.old sa deviceId other inside
      omega
    · omega
  · intro sa deviceId other inside gone
    rcases split sa deviceId other inside with inside | ⟨rfl, -⟩
    · exact good.kept sa deviceId other inside (source _ gone)
    · have older := good.past _ (source _ gone)
      omega
  · intro sa deviceId number other first inside twin found same
    rcases split sa deviceId first inside with inside | ⟨rfl, rfl, rfl⟩
    · rcases split number other twin found with found | ⟨rfl, -⟩
      · exact good.apart sa deviceId number other first inside twin found same
      · exact absurd same (above sa deviceId first inside)
    · rcases split number other twin found with found | ⟨rfl, rfl, rfl⟩
      · exact absurd same.symm (above number other twin found)
      · exact ⟨rfl, rfl⟩
  · intro sa deviceId
    rw [after]
    split
    · rw [List.map_append, List.map_cons, List.map_nil]
      refine List.nodup_append.mpr ⟨good.nodup sa deviceId, List.nodup_singleton _, ?_⟩
      intro number member last inside
      obtain ⟨other, listed, rfl⟩ := List.mem_map.mp member
      rw [List.mem_singleton.mp inside]
      exact above sa deviceId other listed
    · exact good.nodup sa deviceId
  · intro number member
    have older := good.past number (source number member)
    omega
  · rw [List.nodup_iff_count_le_one]
    intro number
    exact Nat.le_trans (counts number) (List.nodup_iff_count_le_one.mp good.once number)

theorem numbered_turn (good : Numbered m (piece :: others)) :
    Numbered (m.exec env piece).1 ((m.exec env piece).2 ++ others) := by
  by_cases reports : piece.reportsEntries = true
  · cases piece with
    | notifySystemAbilityLoaded sa remoteObject =>
        simp only [exec, notifySystemAbilityLoaded, List.nil_append]
        split
        · refine good.fewer (fun _ _ => List.Sublist.refl _) rfl fun id => ?_
          exact count_spent_cons id
        · rename_i item found
          exact good.report_item found (fun _ => rfl) rfl rfl (List.Sublist.refl _) rfl
    | onStartSystemAbilityFail sa errCode process => exact numbered_startFail good
    | notifyLoadFail sa callbackItem =>
        refine good.fewer (fun _ _ => List.Sublist.refl _) rfl fun id => ?_
        simp only [exec, report, count_spent, List.nil_append, List.filterMap_cons, Piece.failing,
          Report.entry, List.count_cons]
        omega
    | _ => cases reports
  · have plain : piece.reportsEntries = false := by simpa using reports
    by_cases cleans : ∃ sa srcDeviceId callback, piece = .cleanCallback sa srcDeviceId callback
    · obtain ⟨sa, srcDeviceId, callback, rfl⟩ := cleans
      exact numbered_clean good
    · have other : ∀ sa srcDeviceId callback, piece ≠ .cleanCallback sa srcDeviceId callback :=
        fun sa srcDeviceId callback same => cleans ⟨sa, srcDeviceId, callback, same⟩
      have counts : ∀ id, ((m.exec env piece).1.spent ((m.exec env piece).2 ++ others)).count id ≤
          (m.spent (piece :: others)).count id := count_spent_plain plain other
      have move : EntryMove m piece (m.exec env piece).1 (m.exec env piece).2 := exec_entries
      cases move with
      | same kept ids queue => exact good.fewer (fun _ _ => by rw [kept]) ids counts
      | died remoteObject source after ids =>
          exact good.fewer (fun sa deviceId => by rw [after]; exact List.eraseP_sublist) ids counts
      | failed id device callback found source failing posted after ids =>
          exact absurd source (other id device callback)
      | cleared id source after ids =>
          rcases source with ⟨remoteObject, rfl⟩ | ⟨errCode, process, rfl⟩ <;> cases plain
      | added load entry source callback id since remote fresh after ids next =>
          exact good.enroll id after ids counts

theorem spent_perm (same : pieces.Perm others) : (m.spent pieces).Perm (m.spent others) :=
  List.Perm.append_left _ ((same.filterMap _).append_right _)

/-- Nothing but the order of what was spent differs. -/
theorem Numbered.reordered (good : Numbered m pieces) (entries : n.callbacksOf = m.callbacksOf)
    (next : n.nextEntry = m.nextEntry) (same : (n.spent others).Perm (m.spent pieces)) :
    Numbered n others :=
  good.fewer (fun _ _ => by rw [entries]) next fun id => Nat.le_of_eq (same.count_eq id)

theorem enter_not_failing (call : Call) : (m.enter call).filterMap Piece.failing = [] := by
  rw [List.filterMap_eq_nil_iff]
  intro piece member
  have begins : piece.Begins m call := enter_begins member
  cases call <;> grind [Piece.Begins, Piece.failing]

/-- A failure task that is taken out of the queue becomes the piece that reports it. -/
theorem spent_pop {task : WorkTask} {rest : TaskQueue Int WorkTask}
    (popped : m.workHandler.pop = some (task, rest)) :
    (Manager.spent { m with workHandler := rest } (task.pieces ++ pieces)).Perm (m.spent pieces) := by
  have moved : task.pieces.filterMap Piece.failing = (WorkTask.failing task).toList := by
    cases task <;> rfl
  simp only [spent, List.filterMap_append, moved, TaskQueue.marks_pop popped, List.append_assoc]
  rw [← List.append_assoc, ← List.append_assoc (WorkTask.failing task).toList]
  exact List.perm_append_comm.append_right _

end Manager

namespace Machine

theorem step_numbered {x : Machine} {label : MachineLabel}
    (good : Manager.Numbered x.shared x.inFlight) :
    Manager.Numbered (x.step label).shared (x.step label).inFlight := by
  refine step_keeps Manager.Numbered ?_ ?_ ?_ ?_ ?_ good
  · exact fun same numbered => numbered.reordered rfl rfl (Manager.spent_perm same.symm)
  · intro call pieces numbered
    refine numbered.reordered rfl rfl ?_
    simp only [Manager.spent, List.filterMap_append, Manager.enter_not_failing, List.nil_append]
    exact List.Perm.refl _
  · exact fun env piece others _ _ _ numbered => Manager.numbered_turn numbered
  · intro task rest pieces popped numbered
    exact numbered.reordered rfl rfl (Manager.spent_pop popped)
  · intro handle numbered
    exact numbered.reordered rfl rfl ((TaskQueue.marks_expire handle).append_right _)

theorem numbered_init (saProfiles : List SaProfile) :
    Manager.Numbered (init saProfiles).shared (init saProfiles).inFlight := by
  have bare : ∀ sa deviceId, (init saProfiles).shared.callbacksOf sa deviceId = [] := by
    intro sa deviceId
    simp [init, Manager.init, Manager.callbacksOf, Manager.itemAt, AbilityItem.listOf]
  have unspent : (init saProfiles).shared.spent (init saProfiles).inFlight = [] := rfl
  constructor <;> simp [bare, unspent]

end Machine

end Samgr
