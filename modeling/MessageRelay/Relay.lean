import MessageRelay.LedgerCall
import MessageRelay.Metrics
import MessageRelay.Retry

/-!
# Relaying one message

A final message is submitted to the destination ledger until there is a receipt, an error that no
retry can clear, or no retry left (`MessageRelay.RetryPolicy.attempts`). Between two attempts lies
the backoff of the policy. A receipt settles the matter whatever its status; only the successful
status means that the message was relayed (`MessageRelay.Relay.submit`).
-/

namespace MessageRelay

/-! ### Attempts in general -/

/-- How a sequence of attempts ends. -/
inductive AttemptsEnding (α : Type) where
  /-- With a value. -/
  | value (instant : Nat) (value : α)
  /-- With the error of the last attempt, after that many attempts. -/
  | failure (instant : Nat) (error : LedgerError) (attempts : Nat)
  /-- The caller dies: in an attempt, or for want of a backoff. -/
  | death (instant : Nat)
  /-- An attempt is never answered. -/
  | stuck

/-- One attempt: when it started and, if it was answered, when and what. -/
structure Attempt (α : Type) where
  start : Nat
  answer : Option (Nat × Except LedgerError α)

namespace RetryPolicy

variable {α : Type}

/-- All attempts from the one with a given number on, which is made at `now` and may be retried
`left` times, and how they end. -/
def attemptsFrom (p : RetryPolicy) (operation : (number start : Nat) → Reply α) :
    (left number now : Nat) → List (Attempt α) × AttemptsEnding α
  | left, number, now =>
    match operation number now with
    | .silence => ([⟨now, none⟩], .stuck)
    | .death delay => ([⟨now, none⟩], .death (now + delay))
    | .answer delay (.ok a) => ([⟨now, some (now + delay, .ok a)⟩], .value (now + delay) a)
    | .answer delay (.error e) =>
      let stop := now + delay
      let this : Attempt α := ⟨now, some (stop, .error e)⟩
      if (ErrorClass.of e).isRetryable then
        match left with
        | 0 => ([this], .failure stop e (number + 1))
        | left + 1 =>
          match p.backoff? (UInt32.ofNat number) with
          | none => ([this], .death stop)
          | some wait =>
            let (attempts, ending) :=
              p.attemptsFrom operation left (number + 1) (Clock.wake stop wait.millisUp)
            (this :: attempts, ending)
      else ([this], .failure stop e (number + 1))

/-- All attempts, the first of which is made at `now`, and how they end. -/
def attempts (p : RetryPolicy) (operation : (number start : Nat) → Reply α) (now : Nat) :
    List (Attempt α) × AttemptsEnding α :=
  p.attemptsFrom operation p.maxRetries.toNat 0 now

end RetryPolicy

/-! ### Submitting a message -/

/-- Why a final message was not relayed. -/
inductive RelayError where
  /-- The transaction was mined without success. -/
  | reverted (transaction : Hash) (status : UInt64)
  /-- No receipt was to be had. -/
  | submission (attempts : Nat) (source : LedgerError)
deriving DecidableEq, Inhabited

/-- The cause in words. -/
def RelayError.message : RelayError → String
  | reverted tx status =>
    "relay transaction " ++ tx.toHex ++ " finished with status " ++ toString status.toNat
  | submission attempts source =>
    "relay submission failed after " ++ toString attempts ++ " attempt(s): " ++ source.message

/-- How a relay ends. -/
inductive RelayEnding where
  /-- With the hash of the transaction that relayed the message, or without. -/
  | result (instant : Nat) (result : Except RelayError Hash)
  /-- The caller dies. -/
  | death (instant : Nat)
  /-- A submission is never answered. -/
  | stuck

namespace RelayEnding

/-- Whether a submission is never answered. -/
def isStuck : RelayEnding → Bool
  | stuck => true
  | result _ _ | death _ => false

/-- When the caller dies, if it does. -/
def death? : RelayEnding → Option Nat
  | death instant => some instant
  | result _ _ | stuck => none

end RelayEnding

/-- What a relay does. -/
structure RelayTrace where
  /-- The submissions, in order. -/
  calls : List LedgerCall
  /-- What was counted. -/
  events : List Metrics.Event
  /-- How the relay ends. -/
  ending : RelayEnding

namespace Relay

/-- A submission as a call to the ledger. -/
def callOfAttempt (a : Attempt DestinationReceipt) : LedgerCall :=
  match a.answer with
  | some (t, result) => .answered .submit a.start t .receipt result
  | none => .unanswered .submit a.start

/-- Relays a message from an instant on. -/
def submit (ledger : Ledger) (p : RetryPolicy) (m : Message) (start : Nat) : RelayTrace :=
  let (attempts, ending) := p.attempts (ledger.submit m) start
  let calls := attempts.map callOfAttempt
  match ending with
  | .stuck => ⟨calls, [], .stuck⟩
  | .death t => ⟨calls, [], .death t⟩
  | .failure t e n => ⟨calls, [], .result t (.error (.submission n e))⟩
  | .value t receipt =>
    ⟨calls, [.relayLatency (Duration.ofMillis (t - start)).toSeconds],
      .result t (if receipt.status = successStatus then .ok receipt.transaction
                 else .error (.reverted receipt.transaction receipt.status))⟩

end Relay

end MessageRelay
