import MessageRelay.Poll
import MessageRelay.Relay
import MessageRelay.Scripted.Destination

/-!
# Sessions with a scripted destination ledger

One thing after the other with one script: single calls, polls and relays. The session keeps the
present instant and what the script has been asked, so that each step meets the script as the steps
before it left it.
-/

namespace MessageRelay

namespace Scripted

/-- A script in use. -/
structure Session where
  /-- The script. -/
  script : Destination
  /-- What it has been asked. -/
  past : Past := {}
  /-- The present instant. -/
  now : Nat := 0
deriving Inhabited

namespace Session

/-- The session after some calls about a message, at an instant. -/
def after (s : Session) (key : MessageKey) (calls : List LedgerCall) (now : Nat) : Session :=
  { s with past := calls.foldl (fun past c => s.script.remember past key c) s.past, now }

/-- One call about a message, waited for to the end. -/
def call (s : Session) (m : Message) (kind : CallKind) : LedgerCall × Session :=
  let ledger := s.script.ledger s.past
  let finish {α : Type} (wrap : α → CallAnswer) : Reply α → LedgerCall × Session
    | .answer delay result =>
      let c := LedgerCall.answered kind s.now (s.now + delay) wrap result
      (c, s.after m.key [c] (s.now + delay))
    | _ =>
      let c := LedgerCall.unanswered kind s.now
      (c, s.after m.key [c] s.now)
  match kind with
  | .estimate => finish .cost (ledger.estimate m s.now)
  | .check gas => finish .finality (ledger.check m gas 1 s.now)
  | .finalityTime => finish .time (ledger.finalityTime m s.now)
  | .submit => finish .receipt (ledger.submit m 0 s.now)

/-- A poll from now on, seen for some time. -/
def poll (s : Session) (m : Message) (schedule : Schedule) (horizon : Nat) : PollTrace × Session :=
  let t := Poll.observe (s.script.ledger s.past) m schedule horizon
  let stop := (t.ending.map Prod.fst).getD horizon
  (t, s.after m.key t.calls (s.now + stop))

/-- A relay from now on. -/
def relay (s : Session) (m : Message) (p : RetryPolicy) : RelayTrace × Session :=
  let t := Relay.submit (s.script.ledger s.past) p m s.now
  let stop := match t.ending with
    | .result instant _ | .death instant => instant
    | .stuck => s.now
  (t, s.after m.key t.calls stop)

end Session

end Scripted

end MessageRelay
