import MessageRelay.Extraction
import MessageRelay.Gate
import MessageRelay.Policy
import MessageRelay.Poll
import MessageRelay.Relay

/-!
# Relaying a batch

A run polls all messages of a batch at the same time and relays them one after the other in batch
order. The results of the polls arrive in any order. They pass the gate, so that a message is
settled only when all messages in front of it are; a message whose poll failed is settled by that
failure, a final one by its relay. While a relay lasts, results pile up unread.

Under `FailurePolicy.abortRemaining` the first message in batch order that is not relayed aborts the
run: the gate is closed and everything behind it is settled as aborted. The polls that still run are
left to finish, or cancelled if so configured. A poll whose task dies has no result. If the run was
not aborted by then, its message is settled as a failed poll when all other polls have ended.

The driver is `MessageRelay.Run.step`, a function of the state and one completed poll, and
`MessageRelay.Run.repair`, which comes behind the last one. It is driven by completions in whatever
order, so what holds of it holds for every order. `MessageRelay.Run.observe` drives it with the
polls of a ledger, in the order of the instants at which they end.

A relay may get no answer. Then the driver waits for ever and the run does not return, but the polls
know nothing of that and go on (`MessageRelay.Run.watch`). If the driver dies, its polls die with
it.
-/

namespace MessageRelay

/-! ### Configuration -/

/-- How a run goes about its work. The lengths of time may be too long for the clock. -/
structure RunConfig where
  /-- The distance between two finality queries for a message. -/
  interval : Duration := Duration.ofMillis 1000
  /-- How long a message is polled. -/
  finalityDeadline : Duration := Duration.ofMillis 30000
  /-- How long there is any polling at all. -/
  runDeadline : Option Duration := none
  /-- What happens behind a failure. -/
  policy : FailurePolicy := .abortRemaining
  /-- Whether polls are cancelled when the run aborts. -/
  cancelOnAbort : Bool := false
  /-- How submissions are retried. -/
  retry : RetryPolicy := {}
deriving Inhabited

namespace RunConfig

/-- How long a message is polled in a run: the lesser of the two deadlines, where a deadline of the
run that is no instant is none. -/
def pollDeadline (c : RunConfig) : Duration :=
  match c.runDeadline.bind Clock.instant? with
  | some instant => min c.finalityDeadline instant
  | none => c.finalityDeadline

/-- The schedule of all polls of a run. -/
def schedule (c : RunConfig) : Schedule :=
  .within c.interval c.pollDeadline

end RunConfig

/-! ### The state of a run -/

/-- The result of a poll as it waits at the gate. -/
inductive Polled where
  /-- The message can be relayed. -/
  | finalized (message : FinalizedMessage)
  /-- The message has failed. -/
  | failed (outcome : Outcome)
deriving DecidableEq, Inhabited

/-- What the result of a poll means for the run. -/
def Polled.ofResult : PollResult → Polled
  | .finalized m => finalized m
  | .timedOut _ _ => failed .finalityTimeout
  | .failed e => failed (.pollFailed e.message)

/-- The end of a poll. -/
structure Completion where
  /-- When it ended. -/
  instant : Nat
  /-- The position of its message. -/
  position : Nat
  /-- Its result; absent if its task died. -/
  polled : Option Polled
deriving DecidableEq, Inhabited

/-- A message that has its outcome. -/
structure Settlement where
  /-- The message's position. -/
  position : Nat
  /-- Its outcome. -/
  outcome : Outcome
  /-- When it was settled. -/
  instant : Nat
  /-- The submissions that were made for it. -/
  calls : List LedgerCall
deriving DecidableEq, Inhabited

namespace Run

/-- The state of a run. -/
structure State where
  /-- The results that wait for their turn. -/
  gate : Gate Polled
  /-- The present instant. -/
  now : Nat
  /-- The messages that have their outcomes, in batch order. -/
  settled : List Settlement
  /-- Whether a failure has closed the gate. -/
  aborted : Bool
  /-- When the latest poll ended of which the run has taken notice. -/
  latest : Nat
  /-- The refusals of the gate. -/
  refused : List GateError
  /-- What was counted while relaying, in order. -/
  events : List Metrics.Event
  /-- A relay that came to no result, behind which the driver does nothing any more. -/
  halted : Option RelayTrace

/-- A run of so many messages before anything has happened. -/
def State.start (size : Nat) : State :=
  ⟨Gate.new size, 0, [], false, 0, [], [], none⟩

variable (c : RunConfig) (keys : List MessageKey) (relay : FinalizedMessage → Nat → RelayTrace)

/-- Hands a result to the gate. -/
def State.offer (s : State) (position : Nat) (polled : Polled) : State :=
  match s.gate.offer position polled with
  | (.ok _, gate) => { s with gate }
  | (.error e, gate) => { s with gate, refused := s.refused ++ [e] }

/-- Closes the gate and settles everything behind a position as aborted by it. -/
def State.abortBehind (s : State) (position : Nat) : State :=
  let outcome := Outcome.aborted (keys[position]?.getD default)
  { s with
    settled := s.settled ++ s.gate.remaining.map fun p => ⟨p, outcome, s.now, []⟩
    gate := s.gate.close
    aborted := true }

/-- Settles a message, and aborts the run if the policy says so. -/
def State.settle (s : State) (position : Nat) (outcome : Outcome) (calls : List LedgerCall) :
    State :=
  let s := { s with settled := s.settled ++ [⟨position, outcome, s.now, calls⟩] }
  if !outcome.isRelayed && c.policy == .abortRemaining then s.abortBehind keys position else s

/-- Takes the result of a message whose turn it is: relays the message, or settles it as failed. -/
def State.take (s : State) (position : Nat) : Polled → State
  | .failed outcome => s.settle c keys position outcome []
  | .finalized m =>
    let trace := relay m s.now
    match trace.ending with
    | .result instant result =>
      let outcome := match result with
        | .ok tx => Outcome.relayed tx
        | .error e => .relayFailed e.message
      { s with now := instant, events := s.events ++ trace.events }.settle c keys position outcome
        trace.calls
    | .death instant =>
      { s with now := instant, halted := some trace, events := s.events ++ trace.events }
    | .stuck => { s with halted := some trace, events := s.events ++ trace.events }

/-- Settles every message whose turn comes, as long as the gate is open and no relay halts the run.
At most `steps` messages are settled. -/
def State.releaseUpTo : (steps : Nat) → State → State
  | 0, s => s
  | steps + 1, s =>
    if s.halted.isSome then s
    else match s.gate.next with
      | none => s
      | some ((position, polled), gate) =>
        releaseUpTo steps ({ s with gate }.take c keys relay position polled)

/-- Settles every message whose turn comes. Each one leaves the gate, so there are no more of them
than results waiting there. -/
def State.release (s : State) : State :=
  s.releaseUpTo c keys relay s.gate.buffered

/-- Whether the driver waits for an answer that never comes. -/
def State.isStuck (s : State) : Bool :=
  s.halted.any (·.ending.isStuck)

/-- When the driver died, if it did. -/
def State.death? (s : State) : Option Nat :=
  s.halted.bind (·.ending.death?)

/-- Whether the run takes no notice any more of what the polls do. -/
def State.isOver (s : State) : Bool :=
  s.halted.isSome || (s.aborted && c.cancelOnAbort)

/-- Whether the driver has put an end to the polls: it has died, or it has cancelled them. -/
def State.endsPolls (s : State) : Bool :=
  s.isOver c && !s.isStuck

/-- The driver's work for one completed poll. -/
def step (s : State) (done : Completion) : State :=
  if s.isOver c then s
  else
    let s := { s with now := max s.now done.instant, latest := done.instant }
    match done.polled with
    | none => s
    | some polled =>
      if s.aborted then s else (s.offer done.position polled).release c keys relay

/-- What a message without a result is settled with. -/
def lost : Polled :=
  .failed (.pollFailed "poll task ended unexpectedly")

/-- The driver's work behind the last poll: messages without a result count as failed. -/
def repair (s : State) : State :=
  if s.halted.isSome || s.aborted || s.gate.isComplete then s
  else
    let missing := s.gate.remaining.filter fun p => !s.gate.holds p
    (missing.foldl (fun s p => s.offer p lost) s).release c keys relay

/-- The run for given completions of its polls, up to the repair. -/
def drive (completions : List Completion) : State :=
  completions.foldl (step c keys relay) (State.start keys.length)

/-- The report of every message. A message without an outcome would be reported as such. -/
def State.reports (s : State) : List Report :=
  keys.zipIdx.map fun (key, position) =>
    ⟨key, (s.settled[position]?.map Settlement.outcome).getD
      (.pollFailed "message was never settled")⟩

/-! ### A run against a ledger -/

/-- A run that has come to its end. -/
structure Trace where
  /-- What was to be relayed. -/
  batch : Batch
  /-- The polls, by position. -/
  polls : List PollTrace
  /-- The driver's last state. -/
  state : State
  /-- The reports, in batch order. -/
  reports : List Report
  /-- What was counted. -/
  events : List Metrics.Event

/-- The completions of some polls, in the order of the instants. -/
def completions (polls : List PollTrace) : List Completion :=
  let unsorted : List Completion := polls.zipIdx.filterMap fun (poll, position) =>
    poll.ending.map fun (instant, ending) =>
      ⟨instant, position, match ending with
        | .result r => some (Polled.ofResult r)
        | .death => none⟩
  unsorted.mergeSort fun a b => a.instant ≤ b.instant

variable (ledger : Ledger) (batch : Batch)

/-- The polls of a batch up to a horizon. -/
def polls (horizon : Nat) : List PollTrace :=
  batch.messages.map fun m => Poll.observe ledger m c.schedule horizon

/-- How a run relays a message. -/
def relayOn (m : FinalizedMessage) (now : Nat) : RelayTrace :=
  Relay.submit ledger c.retry m.message now

/-- The trace of a run from its polls and the driver's last state. -/
def Trace.of (polls : List PollTrace) (s : State) : Trace :=
  let reports := s.reports batch.keys
  { batch
    polls
    state := s
    reports
    events := .extracted batch.size :: polls.flatMap (·.events) ++ s.events
      ++ reports.map fun r => .outcome r.outcome }

/-- How long the polls go on when the driver puts an end to them: through the instant at which it
does if a poll that ended just then made it do so, and up to that instant if it had been waiting for
a relay. -/
def State.cut (s : State) : Nat :=
  if s.latest < s.now then s.now else s.now + 1

/-- The polls of a run as they are seen up to a horizon, whether or not the run ever returns. -/
def watch (horizon : Nat) : List PollTrace :=
  let seen := polls c ledger batch horizon
  let s := drive c batch.keys (relayOn c ledger) (completions seen)
  if s.endsPolls c then polls c ledger batch (min s.cut horizon) else seen

/-- The run, if all that it waits for happens before the horizon. -/
def observe (horizon : Nat) : Option Trace :=
  let seen := polls c ledger batch horizon
  let s := drive c batch.keys (relayOn c ledger) (completions seen)
  if s.endsPolls c then some (.of batch (polls c ledger batch s.cut) s)
  else if seen.all (·.ending.isSome) then
    let s := repair c batch.keys (relayOn c ledger) s
    if s.isStuck then none else some (.of batch seen s)
  else none

/-- The run, if it comes to an end. -/
def trace : Option Trace :=
  (List.range 75).findSome? fun n => observe c ledger batch (1 <<< n)

end Run

end MessageRelay
