import Mathlib.Algebra.Order.Group.Defs
import Mathlib.Data.List.DropRight

/-! A limiter that closes for good. A request is allowed unless it comes less than `width` after the
`limit`-th last allowed one, or an earlier request was refused. The law is about whole histories of
requests; the limiter itself remembers the last `limit` allowed times only. -/
namespace Throttle

/-- A request at a time, with the answer it got. -/
structure Answer (Time : Type*) where
  time : Time
  allowed : Bool
  deriving DecidableEq, Repr

variable {Time : Type*}

def allowedTimes (history : List (Answer Time)) : List Time :=
  (history.filter Answer.allowed).map Answer.time

theorem allowedTimes_append (before after : List (Answer Time)) :
    allowedTimes (before ++ after) = allowedTimes before ++ allowedTimes after := by
  rw [allowedTimes, List.filter_append, List.map_append]
  rfl

theorem allowedTimes_sublist (history : List (Answer Time)) :
    (allowedTimes history).Sublist (history.map Answer.time) :=
  List.filter_sublist.map _

variable [AddCommGroup Time] [LinearOrder Time] (limit : Nat) (width : Time)

/-- The `limit`-th last allowed time is too close. -/
def Blocked (allowed : List Time) (now : Time) : Prop :=
  limit ≤ allowed.length ∧
    ∃ oldest, allowed[allowed.length - limit]? = some oldest ∧ now - oldest < width

/-- Every answer of the history is the right one. -/
def Lawful (history : List (Answer Time)) : Prop :=
  ∀ before answer after, history = before ++ answer :: after →
    (answer.allowed = true ↔ (∀ earlier ∈ before, earlier.allowed = true) ∧
      ¬ Blocked limit width (allowedTimes before) answer.time)

variable {limit width} {history : List (Answer Time)}

theorem lawful_nil : Lawful limit width ([] : List (Answer Time)) := by
  intro before answer after same
  simp at same

theorem Lawful.snoc (good : Lawful limit width history) {last : Answer Time}
    (right : last.allowed = true ↔ (∀ earlier ∈ history, earlier.allowed = true) ∧
      ¬ Blocked limit width (allowedTimes history) last.time) :
    Lawful limit width (history ++ [last]) := by
  intro before answer after same
  rcases List.append_eq_append_iff.mp same with ⟨rest, rfl, rest_eq⟩ | ⟨rest, rfl, rest_eq⟩
  · cases rest with
    | nil =>
        obtain ⟨rfl, -⟩ := List.cons.inj rest_eq
        simpa using right
    | cons first rest =>
        have short := congrArg List.length rest_eq
        simp at short
  · cases rest with
    | nil =>
        obtain ⟨rfl, -⟩ := List.cons.inj rest_eq
        simpa using right
    | cons first rest =>
        obtain ⟨rfl, -⟩ := List.cons.inj rest_eq
        exact good before answer rest rfl

/-- After a refusal everything is refused. -/
theorem Lawful.latched (good : Lawful limit width history) {before after : List (Answer Time)}
    {refused : Answer Time} (split : history = before ++ refused :: after)
    (no : refused.allowed = false) : ∀ later ∈ after, later.allowed = false := by
  intro later member
  obtain ⟨between, rest, rfl⟩ := List.append_of_mem member
  have law := good (before ++ refused :: between) later rest (by simp [split])
  rw [← Bool.not_eq_true]
  intro allowed
  have earlier := (law.mp allowed).1 refused (by simp)
  rw [no] at earlier
  cases earlier

/-- A refusal has its reason. -/
theorem Lawful.refused (good : Lawful limit width history) {before after : List (Answer Time)}
    {refused : Answer Time} (split : history = before ++ refused :: after)
    (no : refused.allowed = false) : (∃ earlier ∈ before, earlier.allowed = false) ∨
      Blocked limit width (allowedTimes before) refused.time := by
  have law := good before refused after split
  rw [no] at law
  by_contra neither
  push Not at neither
  obtain ⟨open_, free⟩ := neither
  have allowed := law.mpr ⟨fun earlier member => by simpa using open_ earlier member, free⟩
  cases allowed

theorem Lawful.of_prefix {before : List (Answer Time)} (good : Lawful limit width history)
    (ahead : before <+: history) : Lawful limit width before := by
  obtain ⟨rest, rfl⟩ := ahead
  intro first answer after same
  exact good first answer (after ++ rest) (by simp [same])

/-- Of `limit + 1` allowed requests in a row the last comes at least `width` after the first. -/
theorem Lawful.span (good : Lawful limit width history) (positive : 0 < limit) {i : Nat}
    {first last : Time}
    (starts : (allowedTimes history)[i]? = some first)
    (ends : (allowedTimes history)[i + limit]? = some last) : width ≤ last - first := by
  induction history using List.reverseRecOn with
  | nil => simp [allowedTimes] at starts
  | append_singleton history answer hypothesis =>
      have shorter : Lawful limit width history := good.of_prefix (List.prefix_append ..)
      have law := good history answer [] rfl
      rw [allowedTimes_append] at starts ends
      cases verdict : answer.allowed with
      | false =>
          have none_ : allowedTimes [answer] = [] := by simp [allowedTimes, verdict]
          rw [none_, List.append_nil] at starts ends
          exact hypothesis shorter starts ends
      | true =>
          have one : allowedTimes [answer] = [answer.time] := by simp [allowedTimes, verdict]
          rw [one] at starts ends
          rcases Nat.lt_trichotomy (i + limit) (allowedTimes history).length with within | at_ | beyond
          · rw [List.getElem?_append_left within] at ends
            rw [List.getElem?_append_left (by omega)] at starts
            exact hypothesis shorter starts ends
          · rw [List.getElem?_append_right (by omega), at_, Nat.sub_self] at ends
            obtain rfl : answer.time = last := by simpa using ends
            rw [List.getElem?_append_left (by omega)] at starts
            by_contra close
            apply (law.mp verdict).2
            refine ⟨by omega, first, ?_, not_le.mp close⟩
            rwa [← at_, Nat.add_sub_cancel]
          · rw [List.getElem?_eq_none (by simp; omega)] at ends
            cases ends

/-- What the limiter remembers. -/
@[ext] structure Limiter (Time : Type*) where
  recent : List Time := []
  enabled : Bool := true

namespace Limiter

variable (limit width) (x : Limiter Time) (now : Time)

/-- A limiter that remembers more than it ever should refuses. -/
def ask : Limiter Time × Bool :=
  if !x.enabled then (x, false)
  else if x.recent.length < limit then ({ x with recent := x.recent ++ [now] }, true)
  else if x.recent.length = limit then
    if now - x.recent.headD 0 < width then ({ x with enabled := false }, false)
    else ({ x with recent := (x.recent ++ [now]).tail }, true)
  else (x, false)

/-- The limiter has seen the history. -/
structure Saw (history : List (Answer Time)) : Prop where
  lawful : Lawful limit width history
  enabled : x.enabled = true ↔ ∀ answer ∈ history, answer.allowed = true
  recent : x.recent = (allowedTimes history).rtake limit

variable {limit width x now}

theorem saw_nil : Saw limit width ({} : Limiter Time) [] :=
  ⟨lawful_nil, by simp, by simp [allowedTimes]⟩

section Recent

omit [AddCommGroup Time] [LinearOrder Time]

theorem length_rtake (items : List Time) : (items.rtake limit).length = min limit items.length := by
  simp only [List.rtake, List.length_drop]
  omega

/-- One more item while there is room. -/
theorem rtake_snoc_of_lt {items : List Time} (room : (items.rtake limit).length < limit) :
    (items ++ [now]).rtake limit = items.rtake limit ++ [now] := by
  rw [length_rtake] at room
  have whole : items.length - limit = 0 := by omega
  have still : (items ++ [now]).length - limit = 0 := by
    rw [List.length_append, List.length_singleton]
    omega
  rw [List.rtake, List.rtake, whole, still, List.drop_zero, List.drop_zero]

/-- One more item in the place of the oldest. -/
theorem rtake_snoc_of_eq {items : List Time} (positive : 0 < limit)
    (full : (items.rtake limit).length = limit) :
    (items ++ [now]).rtake limit = (items.rtake limit ++ [now]).tail := by
  rw [length_rtake] at full
  have next : (items ++ [now]).length - limit = items.length - limit + 1 := by
    rw [List.length_append, List.length_singleton]
    omega
  rw [List.rtake, List.rtake, next, ← List.drop_append_of_le_length (by omega), List.tail_drop]

end Recent

theorem Saw.length_le (saw : x.Saw limit width history) : x.recent.length ≤ limit := by
  rw [saw.recent, length_rtake]
  exact min_le_left ..

/-- The times that are remembered are in order when the requests were. -/
theorem Saw.sorted (saw : x.Saw limit width history)
    (ordered : (history.map Answer.time).Pairwise (· ≤ ·)) : x.recent.Pairwise (· ≤ ·) := by
  rw [saw.recent]
  exact (ordered.sublist (allowedTimes_sublist history)).sublist (List.drop_sublist ..)

/-- The oldest remembered time of a full limiter decides. -/
theorem Saw.blocked_iff (saw : x.Saw limit width history) (positive : 0 < limit)
    (full : x.recent.length = limit) :
    Blocked limit width (allowedTimes history) now ↔ now - x.recent.headD 0 < width := by
  have long : limit ≤ (allowedTimes history).length := by
    rw [saw.recent, length_rtake] at full
    omega
  have inside : (allowedTimes history).length - limit < (allowedTimes history).length := by omega
  have oldest : x.recent.headD 0 = (allowedTimes history)[(allowedTimes history).length - limit] := by
    rw [saw.recent, List.rtake, List.headD_eq_head?_getD, List.head?_drop,
      List.getElem?_eq_getElem inside]
    rfl
  rw [oldest]
  simp [Blocked, long, inside]

/-- The request is refused, and the limiter is closed. -/
theorem Saw.refuse (saw : x.Saw limit width history)
    (reason : x.enabled = false ∨ Blocked limit width (allowedTimes history) now) :
    ({ x with enabled := false } : Limiter Time).Saw limit width (history ++ [⟨now, false⟩]) := by
  constructor
  · apply saw.lawful.snoc
    constructor
    · intro allowed
      cases allowed
    · rintro ⟨all, free⟩
      rcases reason with closed | blocked
      · rw [saw.enabled.mpr all] at closed
        cases closed
      · exact absurd blocked free
  · constructor
    · intro enabled
      cases enabled
    · intro all
      exact all ⟨now, false⟩ (by simp)
  · have none_ : allowedTimes [(⟨now, false⟩ : Answer Time)] = [] := rfl
    rw [allowedTimes_append, none_, List.append_nil]
    exact saw.recent

/-- The request is allowed, and its time is remembered. -/
theorem Saw.allow (saw : x.Saw limit width history) {recent : List Time} (enabled : x.enabled = true)
    (free : ¬ Blocked limit width (allowedTimes history) now)
    (remembers : recent = (allowedTimes history ++ [now]).rtake limit) :
    ({ x with recent } : Limiter Time).Saw limit width (history ++ [⟨now, true⟩]) := by
  have all := saw.enabled.mp enabled
  constructor
  · apply saw.lawful.snoc
    exact ⟨fun _ => ⟨all, free⟩, fun _ => rfl⟩
  · refine ⟨fun _ answer member => ?_, fun _ => enabled⟩
    rcases List.mem_append.mp member with earlier | last
    · exact all answer earlier
    · rw [List.mem_singleton.mp last]
  · rw [allowedTimes_append]
    exact remembers

/-- The answers of the limiter are those of the law. -/
theorem Saw.ask (saw : x.Saw limit width history) (positive : 0 < limit) :
    (x.ask limit width now).1.Saw limit width (history ++ [⟨now, (x.ask limit width now).2⟩]) := by
  have bounded := saw.length_le
  rw [Limiter.ask]
  split
  · rename_i closed
    have closed : x.enabled = false := by simpa using closed
    have same : x = { x with enabled := false } := Limiter.ext rfl closed
    rw [same]
    exact saw.refuse (.inl closed)
  · rename_i enabled
    have enabled : x.enabled = true := by simpa using enabled
    split
    · rename_i room
      apply saw.allow enabled
      · rintro ⟨long, -⟩
        rw [saw.recent, length_rtake] at room
        omega
      · rw [saw.recent] at room ⊢
        exact (rtake_snoc_of_lt room).symm
    · rename_i noRoom
      have full : x.recent.length = limit := by omega
      rw [if_pos full]
      split
      · rename_i close
        exact saw.refuse (.inr ((saw.blocked_iff positive full).mpr close))
      · rename_i apart
        apply saw.allow enabled
        · rwa [saw.blocked_iff positive full]
        · rw [saw.recent] at full ⊢
          exact (rtake_snoc_of_eq positive full).symm

end Limiter

end Throttle
