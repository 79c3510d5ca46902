import MessageRelay.LedgerCall
import MessageRelay.Metrics

/-!
# Polling for finality

A poll asks the destination ledger again and again whether one message is final. First it asks once
what a query costs; every query then carries that cost and half of it again as its limit. Queries
are planned for the slots `0, I, 2 * I, …` of the interval `I`, counted from the start of the poll,
as long as a slot lies before the deadline. A query is made at its slot, or as soon as the answer to
the one before is there. Timers keep whole milliseconds, so a slot between two of them is kept at
the later one. Behind the first negative answer the ledger is asked once when the message becomes
final; that answer is not used, and the wait for it ends with the next slot.

The poll ends with a positive answer, with an error, or at the deadline. Without a deadline it goes
on for as long as its slots can be represented.

`MessageRelay.Poll.observe` is what a poll does up to a horizon. All its instants are counted from
the start of the poll.
-/

namespace MessageRelay

/-! ### What a poll comes to -/

/-- Why a poll came to no answer. -/
inductive PollError where
  /-- The cost of a query is not to be had. -/
  | estimate (source : LedgerError)
  /-- A query failed. -/
  | query (attempt : UInt32) (source : LedgerError)
  /-- There would be no time between two queries. -/
  | zeroInterval
deriving DecidableEq, Inhabited

/-- The cause in words. -/
def PollError.message : PollError → String
  | estimate source => "finality check estimate failed: " ++ source.message
  | query attempt source =>
    "finality query " ++ toString attempt.toNat ++ " failed: " ++ source.message
  | zeroInterval => "poll interval must be greater than zero"

/-- A message that the destination ledger has called final. -/
structure FinalizedMessage where
  /-- The message. -/
  message : Message
  /-- How many queries it took. -/
  attempts : UInt32
  /-- How long it took. -/
  waited : Nat
deriving DecidableEq, Inhabited

/-- The result of a poll. -/
inductive PollResult where
  /-- The message is final. -/
  | finalized (message : FinalizedMessage)
  /-- The deadline passed first. -/
  | timedOut (attempts : UInt32) (elapsed : Nat)
  /-- The poll came to no answer. -/
  | failed (error : PollError)
deriving DecidableEq, Inhabited

/-- How the task that polls ends. -/
inductive PollEnding where
  /-- With a result. -/
  | result (result : PollResult)
  /-- It dies without one. -/
  | death
deriving DecidableEq, Inhabited

/-- What a poll has done. -/
structure PollTrace where
  /-- The calls it made, in order. -/
  calls : List LedgerCall
  /-- What it counted, in order. -/
  events : List Metrics.Event
  /-- When and how it ended, if it did. -/
  ending : Option (Nat × PollEnding)
deriving Inhabited

namespace PollTrace

/-- A poll that has done nothing yet. -/
def waiting : PollTrace :=
  ⟨[], [], none⟩

/-- A poll that ends at once. -/
def ended (instant : Nat) (ending : PollEnding) : PollTrace :=
  ⟨[], [], some (instant, ending)⟩

/-- The same with a call in front. -/
def afterCall (c : LedgerCall) (t : PollTrace) : PollTrace :=
  { t with calls := c :: t.calls }

/-- The same with an event in front. -/
def afterEvent (e : Metrics.Event) (t : PollTrace) : PollTrace :=
  { t with events := e :: t.events }

end PollTrace

/-! ### The schedule -/

/-- When a poll asks and how long. -/
structure Schedule where
  /-- The distance between two slots. -/
  interval : Duration
  /-- When the poll ends, counted from its start; absent for a poll without a deadline. -/
  deadline : Option Duration
deriving DecidableEq, Inhabited

namespace Schedule

/-- The schedule of an interval and a deadline. A deadline that is no instant is none. -/
def within (interval deadline : Duration) : Schedule :=
  ⟨interval, Clock.instant? deadline⟩

/-- Whether a query may be planned for a slot: it has to lie before the deadline or, where there is
none, to be an instant at all. -/
def plans (s : Schedule) (slot : Duration) : Bool :=
  slot < s.deadline.getD (.ofMillis Clock.limit)

/-- The slot behind another one, if a query is planned for it. -/
def nextSlot? (s : Schedule) (slot : Duration) : Option Duration :=
  if s.plans (slot + s.interval) then some (slot + s.interval) else none

/-- When the timer of the deadline goes off. -/
def cutOff (s : Schedule) : Option Nat :=
  s.deadline.map (·.millisUp)

theorem eq_of_nextSlot? {s : Schedule} {slot next : Duration} (h : s.nextSlot? slot = some next) :
    next = slot + s.interval := by
  unfold nextSlot? at h
  split at h
  · exact (Option.some.inj h).symm
  · contradiction

end Schedule

/-! ### The poll -/

namespace Poll

/-- The limit of a query: its cost and half of that again, at most what sixty-four bits hold. -/
def paddedGas (estimate : UInt64) : UInt64 :=
  if estimate.toNat + estimate.toNat / 2 < UInt64.size then estimate + estimate / 2
  else UInt64.ofNat (UInt64.size - 1)

variable (ledger : Ledger) (m : Message) (s : Schedule) (horizon : Nat)

/-- The poll from its `attempt`-th query on, which is planned for `slot` and made at `now`. -/
def attempts (gas : UInt64) (attempt : Nat) (slot : Duration) (now : Nat) : PollTrace :=
  if _h : now < horizon ∧ slot.millisUp < horizon ∧ s.interval ≠ .zero then
    if UInt32.size ≤ attempt then PollTrace.ended now .death
    else
      let call := LedgerCall.answered (.check gas) now
      let open' := LedgerCall.unanswered (.check gas) now
      PollTrace.afterEvent .pollAttempt <|
      match (ledger.check m gas attempt now).await now s.cutOff horizon with
      | .pending => PollTrace.waiting.afterCall open'
      | .died t => (PollTrace.ended t .death).afterCall open'
      | .cutOff t =>
        (PollTrace.ended t (.result (.timedOut (UInt32.ofNat attempt) t))).afterCall open'
      | .answered t (.error e) =>
        (PollTrace.ended t (.result (.failed (.query (UInt32.ofNat attempt) e)))).afterCall
          (call t .finality (.error e))
      | .answered t (.ok true) =>
        ((PollTrace.ended t (.result (.finalized ⟨m, UInt32.ofNat attempt, t⟩))).afterEvent
          (.finalityWait (Duration.ofMillis t).toSeconds)).afterCall (call t .finality (.ok true))
      | .answered t (.ok false) =>
        PollTrace.afterCall (call t .finality (.ok false)) <|
        match hn : s.nextSlot? slot, s.cutOff with
        | none, some stop =>
          if max stop t < horizon then
            PollTrace.ended (max stop t)
              (.result (.timedOut (UInt32.ofNat attempt) (max stop t)))
          else PollTrace.waiting
        | none, none => PollTrace.waiting
        | some next, _ =>
          if attempt = 1 then
            match (ledger.finalityTime m t).await t (some next.millisUp) horizon with
            | .pending => PollTrace.waiting.afterCall (.unanswered .finalityTime t)
            | .died t' => (PollTrace.ended t' .death).afterCall (.unanswered .finalityTime t)
            | .cutOff _ =>
              (attempts gas (attempt + 1) next (max next.millisUp t)).afterCall
                (.unanswered .finalityTime t)
            | .answered t' result =>
              (attempts gas (attempt + 1) next (max next.millisUp t)).afterCall
                (.answered .finalityTime t t' .time result)
          else attempts gas (attempt + 1) next (max next.millisUp t)
  else PollTrace.waiting
termination_by Duration.nanosPerMilli * horizon - slot.nanos
decreasing_by
  all_goals
    have hnext := Schedule.eq_of_nextSlot? hn
    have hslot := Duration.nanos_lt_of_millisUp_lt _h.2.1
    have hpos := Duration.nanos_pos _h.2.2
    subst hnext
    rw [Duration.nanos_add]
    omega

/-- What a poll does up to a horizon. -/
def observe : PollTrace :=
  if horizon = 0 then PollTrace.waiting
  else if s.interval = .zero then PollTrace.ended 0 (.result (.failed .zeroInterval))
  else if s.deadline = some .zero then PollTrace.ended 0 (.result (.timedOut 0 0))
  else
    match (ledger.estimate m 0).await 0 s.cutOff horizon with
    | .pending => PollTrace.waiting.afterCall (.unanswered .estimate 0)
    | .died t => (PollTrace.ended t .death).afterCall (.unanswered .estimate 0)
    | .cutOff t =>
      (PollTrace.ended t (.result (.timedOut 0 t))).afterCall (.unanswered .estimate 0)
    | .answered t (.error e) =>
      (PollTrace.ended t (.result (.failed (.estimate e)))).afterCall
        (.answered .estimate 0 t .cost (.error e))
    | .answered t (.ok cost) =>
      (attempts ledger m s horizon (paddedGas cost) 1 .zero t).afterCall
        (.answered .estimate 0 t .cost (.ok cost))

end Poll

end MessageRelay
