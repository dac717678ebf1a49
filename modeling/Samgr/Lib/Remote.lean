import Samgr.Lib.Fifo
import Samgr.Lib.Runs

/-! Calls that are sent in a parcel. The receiving end takes the arguments from the parcel and may
refuse it at any point; the service sees the calls that were not refused, and nothing else. -/
namespace Remote

variable {Value Code Caller Item Other Arguments Answer Seen State : Type}

/-- A code that says that something went wrong; the code zero says that nothing did. -/
abbrev Refusal (Code : Type) [Zero Code] : Type := { code : Code // code ≠ 0 }

section Receiving

variable [Zero Code]

/-- What takes an item from the front of a parcel, or refuses the parcel. -/
abbrev Receiver (Value Code Item : Type) [Zero Code] : Type :=
  List Value → Except (Refusal Code) (Item × List Value)

namespace Receiver

/-- Nothing is taken. -/
def done (item : Item) : Receiver Value Code Item := fun values => .ok (item, values)

/-- One receiver after the other. -/
def andThen (receive : Receiver Value Code Item) (next : Item → Receiver Value Code Other) :
    Receiver Value Code Other :=
  fun values =>
    match receive values with
    | .error refusal => .error refusal
    | .ok (item, rest) => next item rest

/-- The parcel is refused unless the condition holds. -/
def require (condition : Bool) (refusal : Refusal Code) : Receiver Value Code Unit :=
  fun values => if condition then .ok ((), values) else .error refusal

/-- The parcel is refused where nothing can be read. -/
def reading (read : Fifo.Reader Value Item) (refusal : Refusal Code) : Receiver Value Code Item :=
  fun values =>
    match read values with
    | (none, _) => .error refusal
    | (some item, rest) => .ok (item, rest)

/-- The item that stands for one that cannot be read. -/
def readingOr (read : Fifo.Reader Value Item) (missing : Item) : Receiver Value Code Item :=
  fun values => .ok ((read values).1.getD missing, (read values).2)

/-- From these values the receiver takes the item if the condition holds, and otherwise it refuses. -/
def Accepts (receive : Receiver Value Code Item) (front : List Value) (item : Item) (cond : Prop) : Prop :=
  ∀ rest, (cond → receive (front ++ rest) = .ok (item, rest)) ∧
    (¬ cond → ∃ refusal, receive (front ++ rest) = .error refusal)

/-- Whatever the receiver takes from any parcel has the property. -/
def Grants (receive : Receiver Value Code Item) (holds : Item → Prop) : Prop :=
  ∀ values item rest, receive values = .ok (item, rest) → holds item

variable {front back : List Value} {item : Item} {other : Other} {cond later : Prop}

theorem accepts_done (item : Item) : Accepts (done item : Receiver Value Code Item) [] item True :=
  fun _ => ⟨fun _ => rfl, fun never => absurd trivial never⟩

theorem accepts_require (condition : Bool) (refusal : Refusal Code) :
    Accepts (require condition refusal : Receiver Value Code Unit) [] () (condition = true) := by
  intro rest
  constructor
  · intro holds
    rw [List.nil_append, require, if_pos holds]
  · intro fails
    refine ⟨refusal, ?_⟩
    rw [List.nil_append, require, if_neg fails]

theorem accepts_reading {read : Fifo.Reader Value Item} (takes : read.Takes front item)
    (refusal : Refusal Code) : Accepts (reading read refusal) front item True := by
  intro rest
  refine ⟨fun _ => ?_, fun never => absurd trivial never⟩
  rw [reading, takes rest]

theorem accepts_readingOr {read : Fifo.Reader Value Item} (takes : read.Takes front item)
    (missing : Item) : Accepts (readingOr read missing : Receiver Value Code Item) front item True := by
  intro rest
  refine ⟨fun _ => ?_, fun never => absurd trivial never⟩
  rw [readingOr, takes rest, Option.getD_some]

theorem Accepts.andThen {receive : Receiver Value Code Item} {next : Item → Receiver Value Code Other}
    (first : receive.Accepts front item cond) (second : (next item).Accepts back other later) :
    (receive.andThen next).Accepts (front ++ back) other (cond ∧ later) := by
  intro rest
  obtain ⟨takes, refuses⟩ := first (back ++ rest)
  rw [List.append_assoc]
  constructor
  · rintro ⟨now, after⟩
    rw [Receiver.andThen, takes now]
    exact (second rest).1 after
  · intro fails
    by_cases now : cond
    · obtain ⟨refusal, refused⟩ := (second rest).2 fun after => fails ⟨now, after⟩
      refine ⟨refusal, ?_⟩
      rw [Receiver.andThen, takes now]
      exact refused
    · obtain ⟨refusal, refused⟩ := refuses now
      refine ⟨refusal, ?_⟩
      rw [Receiver.andThen, refused]

theorem Accepts.congr {receive : Receiver Value Code Item} (accepts : receive.Accepts front item cond)
    (same : cond ↔ later) : receive.Accepts front item later :=
  fun rest => ⟨fun holds => (accepts rest).1 (same.mpr holds),
    fun fails => (accepts rest).2 fun holds => fails (same.mp holds)⟩

/-- Where what is taken always has the property, nothing else needs to be known of the checks than
that the property passes them. -/
theorem Accepts.of_grants {receive : Receiver Value Code Item} {holds : Item → Prop}
    (accepts : receive.Accepts front item cond) (grants : receive.Grants holds)
    (enough : holds item → cond) : receive.Accepts front item (holds item) := by
  refine accepts.congr ⟨fun now => ?_, enough⟩
  exact grants _ _ _ ((accepts []).1 now)

theorem grants_done {holds : Item → Prop} (now : holds item) :
    Grants (done item : Receiver Value Code Item) holds := by
  intro values found rest taken
  cases taken
  exact now

theorem grants_require (condition : Bool) (refusal : Refusal Code) :
    Grants (require condition refusal : Receiver Value Code Unit) fun _ => condition = true := by
  intro values found rest taken
  rw [require] at taken
  split at taken
  · assumption
  · cases taken

theorem Grants.andThen {receive : Receiver Value Code Item} {next : Item → Receiver Value Code Other}
    {holds : Item → Prop} {after : Other → Prop} (first : receive.Grants holds)
    (second : ∀ item, holds item → (next item).Grants after) : (receive.andThen next).Grants after := by
  intro values found rest taken
  rw [Receiver.andThen] at taken
  cases received : receive values with
  | error refusal =>
      rw [received] at taken
      cases taken
  | ok item =>
      rw [received] at taken
      exact second item.1 (first _ _ _ received) _ _ _ taken

theorem Grants.mono {receive : Receiver Value Code Item} {holds after : Item → Prop}
    (first : receive.Grants holds) (weaker : ∀ item, holds item → after item) : receive.Grants after :=
  fun values item rest taken => weaker item (first values item rest taken)

theorem grants_any (receive : Receiver Value Code Item) : receive.Grants fun _ => True :=
  fun _ _ _ _ => trivial

end Receiver

end Receiving

/-- The operations of a service. -/
structure Interface where
  Operation : Type
  Arguments : Operation → Type
  Answer : Operation → Type

/-- A service performs an operation for a caller. -/
abbrev Service (I : Interface) (Caller State : Type) : Type :=
  Caller → State → (op : I.Operation) → I.Arguments op → State × I.Answer op

section Serving

variable [Zero Code]

/-- The receiving end of an operation: what the call is, and what its answer looks like in a reply. -/
structure Handler (Value Code Caller Arguments Answer : Type) [Zero Code] where
  receive : Caller → Receiver Value Code Arguments
  respond : Answer → Code × List Value

/-- The receiving end of a service. What has no handler goes elsewhere. -/
structure Stub (I : Interface) (Value Code Caller : Type) [Zero Code] where
  opens : Receiver Value Code Unit
  lookup : UInt32 → Option I.Operation
  handler : (op : I.Operation) → Handler Value Code Caller (I.Arguments op) (I.Answer op)
  otherwise : UInt32 → List Value → Code × List Value

/-- A request as it arrives. -/
structure Request (Value Caller : Type) where
  caller : Caller
  code : UInt32
  data : List Value

/-- A call of the service for a caller. -/
structure Call (I : Interface) (Caller : Type) where
  caller : Caller
  op : I.Operation
  arguments : I.Arguments op

variable {I : Interface}

def Service.perform (service : Service I Caller State) (state : State) (call : Call I Caller) : State :=
  (service call.caller state call.op call.arguments).1

namespace Stub

variable (stub : Stub I Value Code Caller) (service : Service I Caller State)

/-- The state after a request, and what is sent back. -/
def onRemoteRequest (state : State) (request : Request Value Caller) : State × (Code × List Value) :=
  match stub.opens request.data with
  | .error refusal => (state, (refusal.1, []))
  | .ok (_, data) =>
      match stub.lookup request.code with
      | none => (state, stub.otherwise request.code data)
      | some op =>
          match (stub.handler op).receive request.caller data with
          | .error refusal => (state, (refusal.1, []))
          | .ok (arguments, _) =>
              let performed := service request.caller state op arguments
              (performed.1, (stub.handler op).respond performed.2)

/-- The call that a request stands for, if the stub lets it through. -/
def admitted (request : Request Value Caller) : Option (Call I Caller) :=
  match stub.opens request.data with
  | .error _ => none
  | .ok (_, data) =>
      match stub.lookup request.code with
      | none => none
      | some op =>
          match (stub.handler op).receive request.caller data with
          | .error _ => none
          | .ok (arguments, _) => some ⟨request.caller, op, arguments⟩

/-- A request does what its call does, or nothing. -/
theorem onRemoteRequest_state (state : State) (request : Request Value Caller) :
    (stub.onRemoteRequest service state request).1 =
      ((stub.admitted request).elim state fun call => Service.perform service state call) := by
  rw [onRemoteRequest, admitted]
  split
  · rfl
  · split
    · rfl
    · split
      · rfl
      · rfl

/-- What is sent back for a request that is not let through says nothing of the state, and of a known
operation that it failed. -/
theorem onRemoteRequest_refused {request : Request Value Caller} (refused : stub.admitted request = none) :
    ∃ sent, (∀ state, stub.onRemoteRequest service state request = (state, sent)) ∧
      ((stub.lookup request.code).isSome = true → sent.1 ≠ 0) := by
  cases opened : stub.opens request.data with
  | error refusal =>
      refine ⟨(refusal.1, []), fun state => ?_, fun _ => refusal.2⟩
      rw [onRemoteRequest, opened]
  | ok data =>
      cases found : stub.lookup request.code with
      | none =>
          refine ⟨stub.otherwise request.code data.2, fun state => ?_, fun known => by cases known⟩
          simp only [onRemoteRequest, opened, found]
      | some op =>
          cases received : (stub.handler op).receive request.caller data.2 with
          | error refusal =>
              refine ⟨(refusal.1, []), fun state => ?_, fun _ => refusal.2⟩
              simp only [onRemoteRequest, opened, found, received]
          | ok arguments =>
              simp only [admitted, opened, found, received] at refused
              cases refused

/-- Any run of requests leaves the state where the calls that were let through leave it. -/
theorem run_requests (state : State) (requests : List (Request Value Caller)) :
    Runs.run (fun now request => (stub.onRemoteRequest service now request).1) state requests =
      Runs.run (Service.perform service) state (requests.filterMap stub.admitted) := by
  induction requests generalizing state with
  | nil => rfl
  | cons request requests hypothesis =>
      rw [Runs.run_cons, onRemoteRequest_state, hypothesis, List.filterMap_cons]
      cases stub.admitted request with
      | none => rfl
      | some call => rfl

variable {stub}

/-- A call that was let through satisfies what its handler asks for. -/
theorem admitted_grants {holds : (op : I.Operation) → Caller → I.Arguments op → Prop}
    (grants : ∀ code op, stub.lookup code = some op → ∀ caller,
      ((stub.handler op).receive caller).Grants (holds op caller))
    {request : Request Value Caller} {call : Call I Caller} (passed : stub.admitted request = some call) :
    call.caller = request.caller ∧ stub.lookup request.code = some call.op ∧
      holds call.op call.caller call.arguments := by
  rw [admitted] at passed
  split at passed
  · cases passed
  · split at passed
    · cases passed
    · rename_i op found
      split at passed
      · cases passed
      · rename_i arguments rest received
        cases passed
        exact ⟨rfl, found, grants _ op found request.caller _ _ _ received⟩

end Stub

/-- The sending end of an operation. It refuses arguments itself or writes them, and makes something
of what comes back. -/
structure Sender (Value Code Arguments Seen : Type) where
  code : UInt32
  marshal : Arguments → Except Seen (List Value)
  oneWay : Bool := false
  failed : Arguments → Code → Seen
  unmarshal : Arguments → List Value → Seen

namespace Sender

variable (sender : Sender Value Code Arguments Seen)

/-- A reply travels only with the code zero; nobody waits for the reply to a message of one way. -/
def returned [DecidableEq Code] (arguments : Arguments) (sent : Code × List Value) : Seen :=
  if sender.oneWay then sender.unmarshal arguments []
  else if sent.1 = 0 then sender.unmarshal arguments sent.2
  else sender.failed arguments sent.1

theorem returned_fine [DecidableEq Code] (twoWay : sender.oneWay = false) (arguments : Arguments)
    (reply : List Value) : sender.returned arguments (0, reply) = sender.unmarshal arguments reply := by
  rw [returned, twoWay, if_neg Bool.false_ne_true, if_pos rfl]

theorem returned_failed [DecidableEq Code] (twoWay : sender.oneWay = false) (arguments : Arguments)
    {code : Code} (wrong : code ≠ 0) (reply : List Value) :
    sender.returned arguments (code, reply) = sender.failed arguments code := by
  rw [returned, twoWay, if_neg Bool.false_ne_true, if_neg wrong]

/-- A client calls the operation through the stub. -/
def call [DecidableEq Code] (stub : Stub I Value Code Caller) (service : Service I Caller State)
    (opening : List Value) (caller : Caller) (state : State) (arguments : Arguments) : State × Seen :=
  match sender.marshal arguments with
  | .error seen => (state, seen)
  | .ok data =>
      let handled := stub.onRemoteRequest service state ⟨caller, sender.code, opening ++ data⟩
      (handled.1, sender.returned arguments handled.2)

end Sender

/-- A sender and the handler of an operation that belong together: the handler takes from the parcel
what the sender wrote of arguments that fit, if the caller may ask for it. -/
structure Matched (stub : Stub I Value Code Caller) (opening : List Value) (op : I.Operation)
    (sender : Sender Value Code (I.Arguments op) Seen) (fits : I.Arguments op → Prop)
    (permitted : Caller → I.Arguments op → Prop) : Prop where
  opens : stub.opens.Accepts opening () True
  code : stub.lookup sender.code = some op
  accepts : ∀ arguments data, fits arguments → sender.marshal arguments = .ok data → ∀ caller,
    ((stub.handler op).receive caller).Accepts data arguments (permitted caller arguments)

namespace Matched

variable {stub : Stub I Value Code Caller} {opening : List Value} {op : I.Operation}
  {sender : Sender Value Code (I.Arguments op) Seen} {fits : I.Arguments op → Prop}
  {permitted : Caller → I.Arguments op → Prop}

/-- The service performs the call that was sent, and its answer goes back. -/
theorem call_permitted [DecidableEq Code] (fit : Matched stub opening op sender fits permitted)
    (service : Service I Caller State) {caller : Caller} {arguments : I.Arguments op} {data : List Value}
    (good : fits arguments) (sent : sender.marshal arguments = .ok data) (may : permitted caller arguments) (state : State) :
    sender.call stub service opening caller state arguments =
      ((service caller state op arguments).1,
        sender.returned arguments ((stub.handler op).respond (service caller state op arguments).2)) := by
  have opened := (fit.opens data).1 trivial
  have taken := (fit.accepts arguments data good sent caller []).1 may
  rw [List.append_nil] at taken
  simp only [Sender.call, sent, Stub.onRemoteRequest, opened, fit.code, taken]

/-- A call that is not permitted never reaches the service. -/
theorem call_refused [DecidableEq Code] (fit : Matched stub opening op sender fits permitted)
    (service : Service I Caller State) {caller : Caller} {arguments : I.Arguments op} {data : List Value}
    (good : fits arguments) (sent : sender.marshal arguments = .ok data) (never : ¬ permitted caller arguments) (state : State) :
    ∃ refusal : Refusal Code, sender.call stub service opening caller state arguments =
      (state, sender.returned arguments (refusal.1, [])) := by
  have opened := (fit.opens data).1 trivial
  obtain ⟨refusal, refused⟩ := (fit.accepts arguments data good sent caller []).2 never
  rw [List.append_nil] at refused
  refine ⟨refusal, ?_⟩
  simp only [Sender.call, sent, Stub.onRemoteRequest, opened, fit.code, refused]

end Matched

end Serving

end Remote
