import Mathlib.Data.List.Chain

/-! Notices of presence. A thing comes and goes, and whoever changes that posts the notice
later, through a queue. A receiver keeps a flag so that it is not told of an arrival twice;
one that joins while the thing is there is greeted through the same queue, and its flag may be
cleared from outside. The conditions below are on the moment of posting, greeting and
clearing; under them the receiver hears of arrivals and departures in turn. -/
namespace Notices

inductive Notice where
  | added
  | removed
  | greeting
  deriving DecidableEq, Repr

/-- `told` is the flag, and `log` what has been heard, the newest first: true is an arrival. -/
structure Receiver where
  told : Bool
  log : List Bool

/-- What the flag becomes. -/
def settle (told : Bool) : Notice → Bool
  | .added => true
  | .removed => false
  | .greeting => told

def Receiver.hear (r : Receiver) : Notice → Receiver
  | .added => if r.told then r else ⟨true, true :: r.log⟩
  | .removed => ⟨false, false :: r.log⟩
  | .greeting => { r with log := true :: r.log }

/-- The receiver once it has heard the whole queue. -/
def Receiver.drain (r : Receiver) (queue : List Notice) : Receiver := queue.foldl hear r

/-- No two arrivals in a row. -/
def Alternates (log : List Bool) : Prop :=
  log.IsChain fun newer older => ¬ (newer = true ∧ older = true)

theorem alternates_cons {last : Bool} {log : List Bool} :
    Alternates (last :: log) ↔ Alternates log ∧ ¬ (last = true ∧ log.head? = some true) := by
  cases log with
  | nil => simp [Alternates]
  | cons older log =>
      simp only [Alternates, List.isChain_cons_cons, List.head?_cons, Option.some.injEq]
      exact and_comm

theorem Alternates.of_append {newer older : List Bool} (whole : Alternates (newer ++ older)) :
    Alternates older := by
  induction newer with
  | nil => exact whole
  | cons last newer hypothesis => exact hypothesis (alternates_cons.mp whole).1

/-- Between two arrivals there is a departure. -/
theorem Alternates.between {newer middle older : List Bool}
    (whole : Alternates (newer ++ true :: (middle ++ true :: older))) : false ∈ middle := by
  have inner := whole.of_append
  cases middle with
  | nil =>
      have pair := (alternates_cons.mp inner).2
      simp at pair
  | cons next middle =>
      have pair := (alternates_cons.mp inner).2
      cases next with
      | false => exact List.mem_cons_self
      | true => simp at pair

namespace Receiver

variable {r : Receiver} {queue : List Notice}

@[simp] theorem drain_nil : r.drain [] = r := rfl

@[simp] theorem drain_cons {notice : Notice} :
    r.drain (notice :: queue) = (r.hear notice).drain queue := rfl

theorem drain_append {notice : Notice} : r.drain (queue ++ [notice]) = (r.drain queue).hear notice := by
  simp [drain]

theorem hear_told {notice : Notice} : (r.hear notice).told = settle r.told notice := by
  cases notice with
  | added => cases told : r.told <;> simp [hear, settle, told]
  | removed => rfl
  | greeting => rfl

theorem drain_told : (r.drain queue).told = queue.foldl settle r.told := by
  induction queue generalizing r with
  | nil => rfl
  | cons notice queue hypothesis =>
      rw [drain_cons, hypothesis, hear_told]
      rfl

theorem drain_log (r : Receiver) (queue : List Notice) :
    ∃ newer, (r.drain queue).log = newer ++ r.log := by
  induction queue generalizing r with
  | nil => exact ⟨[], rfl⟩
  | cons notice queue hypothesis =>
      obtain ⟨newer, after⟩ := hypothesis (r.hear notice)
      obtain ⟨heard, first⟩ : ∃ heard, (r.hear notice).log = heard ++ r.log := by
        cases notice with
        | added =>
            cases told : r.told with
            | true => exact ⟨[], by simp [hear, told]⟩
            | false => exact ⟨[true], by simp [hear, told]⟩
        | removed => exact ⟨[false], rfl⟩
        | greeting => exact ⟨[true], rfl⟩
      exact ⟨newer ++ heard, by rw [drain_cons, after, first, List.append_assoc]⟩

/-- A queue of arrivals says nothing to a receiver that has been told. -/
theorem drain_added (told : r.told = true) (arrivals : ∀ notice ∈ queue, notice = .added) :
    r.drain queue = r := by
  induction queue with
  | nil => rfl
  | cons notice queue hypothesis =>
      rw [arrivals notice List.mem_cons_self, drain_cons]
      have same : r.hear .added = r := by simp [hear, told]
      rw [same]
      exact hypothesis fun notice member => arrivals notice (List.mem_cons_of_mem _ member)

/-- Without greetings the flag says what was heard last. -/
theorem drain_ungreeted (ungreeted : .greeting ∉ queue) (alternates : Alternates r.log)
    (agree : r.told = true ↔ r.log.head? = some true) :
    Alternates (r.drain queue).log ∧
      ((r.drain queue).told = true ↔ (r.drain queue).log.head? = some true) := by
  induction queue generalizing r with
  | nil => exact ⟨alternates, agree⟩
  | cons notice queue hypothesis =>
      have later : .greeting ∉ queue := fun member => ungreeted (List.mem_cons_of_mem _ member)
      rw [drain_cons]
      cases notice with
      | added =>
          cases told : r.told with
          | true =>
              have same : r.hear .added = r := by simp [hear, told]
              rw [same]
              exact hypothesis later alternates agree
          | false =>
              have silent : r.log.head? ≠ some true := by simpa [told] using agree
              refine hypothesis later ?_ (by simp [hear, told])
              simp only [hear, told, Bool.false_eq_true, if_false, alternates_cons]
              exact ⟨alternates, fun both => silent both.2⟩
      | removed =>
          refine hypothesis later ?_ (by simp [hear])
          simp only [hear, alternates_cons]
          exact ⟨alternates, fun both => absurd both.1 (by simp)⟩
      | greeting => exact absurd List.mem_cons_self ungreeted

/-- Clearing the flag goes unheard if no arrival is queued ahead of the next departure. -/
theorem drain_cleared (log : List Bool) (clear : .added ∉ queue.takeWhile (· ≠ .removed)) :
    (drain ⟨false, log⟩ queue).log = (drain ⟨true, log⟩ queue).log ∧
      ((drain ⟨false, log⟩ queue).told = true → (drain ⟨true, log⟩ queue).told = true) := by
  induction queue generalizing log with
  | nil => exact ⟨rfl, fun _ => rfl⟩
  | cons notice queue hypothesis =>
      cases notice with
      | added => simp at clear
      | removed => exact ⟨rfl, id⟩
      | greeting =>
          refine hypothesis (true :: log) fun member => clear ?_
          simpa using member

end Receiver

theorem settle_mono {queue : List Notice} (told : queue.foldl settle false = true) :
    queue.foldl settle true = true := by
  induction queue with
  | nil => rfl
  | cons notice queue hypothesis =>
      cases notice with
      | added => exact told
      | removed => exact told
      | greeting => exact hypothesis told

theorem settle_of_unremoved {queue : List Notice} (unremoved : .removed ∉ queue) :
    queue.foldl settle true = true := by
  induction queue with
  | nil => rfl
  | cons notice queue hypothesis =>
      have later : .removed ∉ queue := fun member => unremoved (List.mem_cons_of_mem _ member)
      cases notice with
      | added => exact hypothesis later
      | removed => exact absurd List.mem_cons_self unremoved
      | greeting => exact hypothesis later

/-- One receiver and the thing it is told of. `arriving` and `leaving` count the changes whose
notice is still to be posted, `checking` the receiver's own first look that is still to come;
`told` is none as long as it has not joined. -/
@[ext] structure Track where
  present : Bool
  arriving : Nat
  leaving : Nat
  checking : Nat
  queue : List Notice
  told : Option Bool
  log : List Bool

namespace Track

/-- The flag was cleared after the receiver heard of the arrival, or will be greeted. -/
def Stale (t : Track) : Prop :=
  t.told = some false ∧ (t.log.head? = some true ∨ .greeting ∈ t.queue)

/-- The thing is there, or whoever took it away has its notice still to post. -/
def Due (t : Track) : Prop := t.present = true ∨ 0 < t.leaving

def MayAnnounce (t : Track) : Prop := t.Due ∧ (t.Stale → .removed ∈ t.queue)

def MayWithdraw (t : Track) : Prop := t.present = false ∨ 0 < t.arriving

def MayGreet (t : Track) : Prop := t.told = some false → t.Due ∧ .removed ∉ t.queue ∧ ¬ t.Stale

def MayClear (t : Track) : Prop :=
  t.told = some true → .added ∉ t.queue.takeWhile (· ≠ .removed)

instance (t : Track) : Decidable t.Stale := inferInstanceAs (Decidable (_ ∧ _))
instance (t : Track) : Decidable t.Due := inferInstanceAs (Decidable (_ ∨ _))
instance (t : Track) : Decidable t.MayAnnounce := inferInstanceAs (Decidable (_ ∧ (_ → _)))
instance (t : Track) : Decidable t.MayWithdraw := inferInstanceAs (Decidable (_ ∨ _))
instance (t : Track) : Decidable t.MayGreet := inferInstanceAs (Decidable (_ → _))
instance (t : Track) : Decidable t.MayClear := inferInstanceAs (Decidable (_ → _))

/-- What holds of the receiver once it has heard everything that is queued. -/
structure Hears (t : Track) (r : Receiver) : Prop where
  alternates : Alternates r.log
  told : r.told = true → r.log.head? = some true
  present : t.present = true → t.arriving = 0 → t.checking = 0 → r.log.head? = some true
  absent : t.present = false → t.leaving = 0 → r.log.head? ≠ some true

/-- No greeting is queued behind a departure, and the queue ends with the notice of the last
change once nobody has a notice to post. -/
structure Good (t : Track) : Prop where
  present : t.present = true → t.arriving = 0 → t.queue.foldl settle true = true
  absent : t.present = false → t.leaving = 0 → t.queue.foldl settle false = false
  single : t.checking ≤ 1
  fresh : 0 < t.checking → .greeting ∉ t.queue
  stranger : t.told = none → t.checking = 0 ∧ t.log = [] ∧ .greeting ∉ t.queue
  ordered : t.queue.Pairwise fun first second => first = .removed → second ≠ .greeting
  hears : ∀ told, t.told = some told → t.Hears (Receiver.drain ⟨told, t.log⟩ t.queue)

variable {t : Track}

theorem ordered_append {queue : List Notice} {notice : Notice}
    (ordered : queue.Pairwise fun first second => first = .removed → second ≠ .greeting)
    (fits : notice = .greeting → .removed ∉ queue) :
    (queue ++ [notice]).Pairwise fun first second => first = .removed → second ≠ .greeting := by
  refine List.pairwise_append.mpr ⟨ordered, List.pairwise_singleton _ _, ?_⟩
  intro first member second last removed greeted
  rw [List.mem_singleton.mp last] at greeted
  exact fits greeted (removed ▸ member)

theorem ungreeted_append {queue : List Notice} {notice : Notice} (ungreeted : .greeting ∉ queue)
    (other : notice ≠ .greeting) : .greeting ∉ queue ++ [notice] := by
  simp only [List.mem_append, List.mem_singleton, not_or]
  exact ⟨ungreeted, other.symm⟩

namespace Good

/-- The thing has not come and the receiver has not joined. -/
theorem start : Good ⟨false, 0, 0, 0, [], none, []⟩ :=
  ⟨nofun, fun _ _ => rfl, Nat.zero_le 1, nofun, fun _ => ⟨rfl, rfl, nofun⟩, List.Pairwise.nil, nofun⟩

/-- A receiver whose flag ends up cleared has not heard of an arrival last. -/
theorem silent (good : t.Good) {told : Bool} (joined : t.told = some told)
    (clean : t.Stale → .removed ∈ t.queue)
    (cleared : (Receiver.drain ⟨told, t.log⟩ t.queue).told = false) :
    (Receiver.drain ⟨told, t.log⟩ t.queue).log.head? ≠ some true := by
  by_cases removed : .removed ∈ t.queue
  · -- behind the last departure there is neither an arrival nor a greeting
    rcases List.eq_nil_or_concat t.queue with empty | ⟨front, last, split⟩
    · rw [empty] at removed
      cases removed
    · rw [List.concat_eq_append] at split
      rw [split, Receiver.drain_append] at cleared ⊢
      cases last with
      | added => simp [Receiver.hear_told, settle] at cleared
      | removed => simp [Receiver.hear]
      | greeting =>
          have ordered := good.ordered
          rw [split] at removed ordered
          have front : .removed ∈ front := by simpa using removed
          exact absurd rfl ((List.pairwise_append.mp ordered).2.2 _ front _ List.mem_cons_self rfl)
  · have unset : told = false := by
      by_contra set
      rw [Bool.not_eq_false] at set
      rw [Receiver.drain_told, set, settle_of_unremoved removed] at cleared
      cases cleared
    subst unset
    have fresh : ¬ t.Stale := fun stale => removed (clean stale)
    rcases List.eq_nil_or_concat t.queue with empty | ⟨front, last, split⟩
    · rw [empty]
      exact fun heard => fresh ⟨joined, Or.inl heard⟩
    · rw [List.concat_eq_append] at split
      rw [split, Receiver.drain_append] at cleared ⊢
      cases last with
      | added => simp [Receiver.hear_told, settle] at cleared
      | removed => simp [Receiver.hear]
      | greeting => exact absurd ⟨joined, Or.inr (by simp [split])⟩ fresh

theorem log_alternates (good : t.Good) : Alternates t.log := by
  cases joined : t.told with
  | none =>
      rw [(good.stranger joined).2.1]
      exact List.isChain_nil
  | some told =>
      obtain ⟨newer, after⟩ := Receiver.drain_log ⟨told, t.log⟩ t.queue
      have whole := (good.hears told joined).alternates
      rw [after] at whole
      exact whole.of_append

/-- The thing comes, in the place of another one if there is one. -/
theorem arrives (good : t.Good) :
    Good { t with
      present := true
      arriving := t.arriving + 1
      queue := t.queue ++ if t.present then [.removed] else [] } := by
  cases there : t.present with
  | false =>
      simp only [Bool.false_eq_true, if_false, List.append_nil]
      refine ⟨fun _ none => ?_, fun gone => ?_, good.single, good.fresh, good.stranger, good.ordered, ?_⟩
      · cases none
      · cases gone
      · intro told joined
        have hears := good.hears told joined
        exact ⟨hears.alternates, hears.told, nofun, nofun⟩
  | true =>
      simp only [if_true]
      refine ⟨fun _ none => ?_, fun gone => ?_, good.single, fun checks => ?_, fun alone => ?_, ?_, ?_⟩
      · cases none
      · cases gone
      · exact ungreeted_append (good.fresh checks) (by simp)
      · obtain ⟨idle, empty, ungreeted⟩ := good.stranger alone
        exact ⟨idle, empty, ungreeted_append ungreeted (by simp)⟩
      · exact ordered_append good.ordered (by simp)
      · intro told joined
        rw [Receiver.drain_append]
        refine ⟨?_, nofun, nofun, nofun⟩
        exact alternates_cons.mpr ⟨(good.hears told joined).alternates, by simp⟩

theorem leaves (good : t.Good) : Good { t with present := false, leaving := t.leaving + 1 } := by
  refine ⟨nofun, nofun, good.single, good.fresh, good.stranger, good.ordered, fun told joined => ?_⟩
  have hears := good.hears told joined
  exact ⟨hears.alternates, hears.told, nofun, nofun⟩

theorem announces (good : t.Good) (left : Nat)
    (may : t.MayAnnounce) : Good { t with arriving := left, queue := t.queue ++ [.added] } := by
  have due : t.present = false → t.leaving = 0 → False := by
    intro gone none
    rcases may.1 with there | owed
    · simp [there] at gone
    · omega
  refine ⟨fun _ _ => ?_, fun gone none => (due gone none).elim, good.single, fun checks => ?_,
    fun alone => ?_, ordered_append good.ordered (by simp), ?_⟩
  · simp [settle]
  · exact ungreeted_append (good.fresh checks) (by simp)
  · obtain ⟨idle, empty, ungreeted⟩ := good.stranger alone
    exact ⟨idle, empty, ungreeted_append ungreeted (by simp)⟩
  · intro told joined
    have hears := good.hears told joined
    have silent := good.silent joined may.2
    rw [Receiver.drain_append]
    generalize Receiver.drain ⟨told, t.log⟩ t.queue = r at hears silent
    cases set : r.told with
    | true =>
        have same : r.hear .added = r := by simp [Receiver.hear, set]
        rw [same]
        exact ⟨hears.alternates, hears.told, fun _ _ _ => hears.told set,
          fun gone none => (due gone none).elim⟩
    | false =>
        have heard : r.hear .added = ⟨true, true :: r.log⟩ := by simp [Receiver.hear, set]
        rw [heard]
        refine ⟨?_, fun _ => rfl, fun _ _ _ => rfl, fun gone none => (due gone none).elim⟩
        exact alternates_cons.mpr ⟨hears.alternates, fun both => silent set both.2⟩

theorem withdraws (good : t.Good) (left : Nat)
    (may : t.MayWithdraw) : Good { t with leaving := left, queue := t.queue ++ [.removed] } := by
  have owed : t.present = true → t.arriving = 0 → False := by
    intro there none
    rcases may with gone | owed
    · simp [gone] at there
    · omega
  refine ⟨fun there none => (owed there none).elim, fun _ _ => by simp [settle], good.single,
    fun checks => ?_, fun alone => ?_, ordered_append good.ordered (by simp), ?_⟩
  · exact ungreeted_append (good.fresh checks) (by simp)
  · obtain ⟨idle, empty, ungreeted⟩ := good.stranger alone
    exact ⟨idle, empty, ungreeted_append ungreeted (by simp)⟩
  · intro told joined
    rw [Receiver.drain_append]
    refine ⟨?_, nofun, fun there none => (owed there none).elim, ?_⟩
    · exact alternates_cons.mpr ⟨(good.hears told joined).alternates, by simp⟩
    · intro _ _
      simp [Receiver.hear]

theorem joins (good : t.Good) (alone : t.told = none) :
    Good { t with told := some false, checking := t.checking + 1 } := by
  obtain ⟨idle, empty, ungreeted⟩ := good.stranger alone
  refine ⟨good.present, good.absent, by simp [idle], fun _ => ungreeted, nofun, good.ordered, ?_⟩
  intro told joined
  obtain rfl : false = told := Option.some.inj joined
  obtain ⟨alternates, agree⟩ := Receiver.drain_ungreeted (r := ⟨false, t.log⟩) ungreeted
    (by rw [empty]; exact List.isChain_nil) (by simp [empty])
  refine ⟨alternates, agree.mp, fun _ _ checked => by simp at checked, fun gone none heard => ?_⟩
  have set := agree.mpr heard
  rw [Receiver.drain_told, good.absent gone none] at set
  cases set

/-- The first look finds nothing, or a receiver that has been told already. -/
theorem looks (good : t.Good) {left : Nat} (checks : t.checking = left + 1)
    (idle : t.present = false ∨ t.told = some true) : Good { t with checking := left } := by
  have single := good.single
  refine ⟨good.present, good.absent, by simp only; omega, fun more => by simp only at more; omega,
    fun alone => ?_, good.ordered, fun told joined => ?_⟩
  · have none := (good.stranger alone).1
    omega
  · have hears := good.hears told joined
    refine ⟨hears.alternates, hears.told, fun there none _ => ?_, hears.absent⟩
    rcases idle with gone | set
    · simp only [gone] at there
      cases there
    · obtain rfl : told = true := Option.some.inj (joined.symm.trans set)
      apply hears.told
      rw [Receiver.drain_told]
      exact good.present there none

theorem greets (good : t.Good) {left : Nat} (checks : t.checking = left + 1)
    (unset : t.told = some false) (may : t.MayGreet) :
    Good { t with checking := left, told := some true, queue := t.queue ++ [.greeting] } := by
  obtain ⟨due, unremoved, clean⟩ := may unset
  have single := good.single
  have ungreeted := good.fresh (by omega)
  have absent : t.present = false → t.leaving = 0 → False := by
    intro gone none
    rcases due with there | owed
    · simp [there] at gone
    · omega
  refine ⟨fun _ _ => ?_, fun gone none => (absent gone none).elim, by simp only; omega,
    fun more => by simp only at more; omega, nofun,
    ordered_append good.ordered fun _ => unremoved, fun told joined => ?_⟩
  · rw [List.foldl_append, settle_of_unremoved unremoved]
    rfl
  · obtain rfl : true = told := Option.some.inj joined
    have arrivals : ∀ notice ∈ t.queue, notice = .added := by
      intro notice member
      cases notice with
      | added => rfl
      | removed => exact absurd member unremoved
      | greeting => exact absurd member ungreeted
    rw [Receiver.drain_append, Receiver.drain_added (r := ⟨true, t.log⟩) rfl arrivals]
    refine ⟨?_, fun _ => rfl, fun _ _ _ => rfl, fun gone none => (absent gone none).elim⟩
    exact alternates_cons.mpr ⟨good.log_alternates, fun both => clean ⟨unset, Or.inl both.2⟩⟩

theorem clears (good : t.Good) (may : t.MayClear) : Good { t with told := t.told.map fun _ => false } := by
  refine ⟨good.present, good.absent, good.single, good.fresh, fun alone => ?_, good.ordered, ?_⟩
  · exact good.stranger (Option.map_eq_none_iff.mp alone)
  · intro told joined
    obtain ⟨before, was, rfl⟩ := Option.map_eq_some_iff.mp joined
    cases before with
    | false =>
        have hears := good.hears false was
        exact ⟨hears.alternates, hears.told, hears.present, hears.absent⟩
    | true =>
        have hears := good.hears true was
        obtain ⟨same, less⟩ := Receiver.drain_cleared t.log (may was)
        refine ⟨?_, fun set => ?_, fun there none checked => ?_, fun gone none => ?_⟩
        · simp only [same]
          exact hears.alternates
        · simp only [same]
          exact hears.told (less set)
        · simp only [same]
          exact hears.present there none checked
        · simp only [same]
          exact hears.absent gone none

theorem settle_tail {notice : Notice} {queue : List Notice} :
    ((notice :: queue).foldl settle true = true → queue.foldl settle true = true) ∧
      ((notice :: queue).foldl settle false = false → queue.foldl settle false = false) := by
  constructor
  · intro told
    cases notice with
    | added => exact told
    | removed => exact settle_mono told
    | greeting => exact told
  · intro cleared
    cases notice with
    | added =>
        by_contra set
        rw [Bool.not_eq_false] at set
        exact absurd (settle_mono set) (by simpa [settle] using cleared)
    | removed => exact cleared
    | greeting => exact cleared

/-- A receiver hears the next notice. -/
theorem delivers (good : t.Good) (notice : Notice) {rest : List Notice} {told : Bool}
    (next : t.queue = notice :: rest) (joined : t.told = some told) :
    Good { t with
      queue := rest
      told := some (Receiver.hear ⟨told, t.log⟩ notice).told
      log := (Receiver.hear ⟨told, t.log⟩ notice).log } := by
  refine ⟨fun there none => ?_, fun gone none => ?_, good.single, fun checks member => ?_,
    nofun, ?_, fun after joins => ?_⟩
  · exact settle_tail.1 (next ▸ good.present there none)
  · exact settle_tail.2 (next ▸ good.absent gone none)
  · exact good.fresh checks (next ▸ List.mem_cons_of_mem _ member)
  · exact (List.pairwise_cons.mp (next ▸ good.ordered)).2
  · obtain rfl : _ = after := Option.some.inj joins
    have hears := good.hears told joined
    rw [next, Receiver.drain_cons] at hears
    exact ⟨hears.alternates, hears.told, hears.present, hears.absent⟩

/-- Nobody hears the next notice. -/
theorem passes (good : t.Good) (notice : Notice) {rest : List Notice}
    (next : t.queue = notice :: rest) (alone : t.told = none) : Good { t with queue := rest } := by
  obtain ⟨idle, empty, ungreeted⟩ := good.stranger alone
  refine ⟨fun there none => ?_, fun gone none => ?_, good.single, fun checks member => ?_,
    fun _ => ⟨idle, empty, fun member => ?_⟩, ?_, fun told joined => ?_⟩
  · exact settle_tail.1 (next ▸ good.present there none)
  · exact settle_tail.2 (next ▸ good.absent gone none)
  · exact good.fresh checks (next ▸ List.mem_cons_of_mem _ member)
  · exact ungreeted (next ▸ List.mem_cons_of_mem _ member)
  · exact (List.pairwise_cons.mp (next ▸ good.ordered)).2
  · cases alone.symm.trans joined

/-- Nothing is under way. -/
theorem at_rest (good : t.Good) (joined : t.told ≠ none) (empty : t.queue = [])
    (posted : t.arriving = 0 ∧ t.leaving = 0) (checked : t.checking = 0) :
    t.log.head? = some true ↔ t.present = true := by
  obtain ⟨told, joined⟩ := Option.ne_none_iff_exists'.mp joined
  have hears := good.hears told joined
  rw [empty, Receiver.drain_nil] at hears
  constructor
  · intro heard
    by_contra gone
    exact hears.absent (by simpa using gone) posted.2 heard
  · exact fun there => hears.present there posted.1 checked

end Good

end Track

end Notices
