import MessageRelay.Ledger

/-!
# Calls as an observer sees them

A call to the destination ledger starts at an instant and, if it is answered while its caller still
waits, ends at another one (`MessageRelay.LedgerCall`). A caller waits up to a cut-off instant, if
there is one; an answer that comes exactly then still counts, and a call made after the cut-off
still counts if it is answered at once (`MessageRelay.Reply.await`).

An observer watches up to a *horizon* and sees everything that happens strictly before it. What
happens later is pending for the observer.
-/

namespace MessageRelay

/-- What a call asks. -/
inductive CallKind where
  /-- What a finality check costs. -/
  | estimate
  /-- Whether a message is final, with a limit on the cost. -/
  | check (gasLimit : UInt64)
  /-- When a message becomes final. -/
  | finalityTime
  /-- To deliver a message. -/
  | submit
deriving DecidableEq, Inhabited

/-- What a call was answered. -/
inductive CallAnswer where
  | cost (gas : UInt64)
  | finality (isFinal : Bool)
  | time (time : Option Nat)
  | receipt (receipt : DestinationReceipt)
  | failure (error : LedgerError)
deriving DecidableEq, Inhabited

/-- A call to the destination ledger. -/
structure LedgerCall where
  /-- What it asks. -/
  kind : CallKind
  /-- When it was made. -/
  start : Nat
  /-- When it was answered, and what; absent if it was given up or its caller died. -/
  answer : Option (Nat × CallAnswer)
deriving DecidableEq, Inhabited

namespace LedgerCall

/-- A call that was given up. -/
def unanswered (kind : CallKind) (start : Nat) : LedgerCall :=
  ⟨kind, start, none⟩

/-- A call that was answered. -/
def answered {α : Type} (kind : CallKind) (start stop : Nat) (wrap : α → CallAnswer)
    (result : Except LedgerError α) : LedgerCall :=
  ⟨kind, start, some (stop, match result with
    | .ok a => wrap a
    | .error e => .failure e)⟩

/-- Whether the call is a finality query. -/
def isCheck (c : LedgerCall) : Bool :=
  match c.kind with
  | .check _ => true
  | _ => false

end LedgerCall

/-! ### Waiting for a reply -/

/-- How waiting for a reply ends. -/
inductive Awaited (α : Type) where
  /-- The reply comes. -/
  | answered (instant : Nat) (result : Except LedgerError α)
  /-- The cut-off comes first. -/
  | cutOff (instant : Nat)
  /-- The caller dies. -/
  | died (instant : Nat)
  /-- Nothing happens before the horizon. -/
  | pending

namespace Reply

variable {α : Type}

/-- The end of the wait for a reply to a call made at `start`, as seen up to a horizon. -/
def await (reply : Reply α) (start : Nat) (cutOff : Option Nat) (horizon : Nat) : Awaited α :=
  let within (instant : Nat) (event : Awaited α) : Awaited α :=
    let (instant, event) := match cutOff with
      | some cut => if instant ≤ max cut start then (instant, event)
                    else (max cut start, .cutOff (max cut start))
      | none => (instant, event)
    if instant < horizon then event else .pending
  match reply with
  | answer delay result => within (start + delay) (.answered (start + delay) result)
  | death delay => within (start + delay) (.died (start + delay))
  | silence =>
    match cutOff with
    | some cut => if max cut start < horizon then .cutOff (max cut start) else .pending
    | none => .pending

end Reply

end MessageRelay
