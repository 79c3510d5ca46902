import MessageRelay.LedgerCall
import MessageRelay.Scripted.Sample

/-!
# A scripted destination ledger

A destination ledger whose replies are laid down in a script, in part for all messages and in part
under the key of one. A message without a script is final at the first query and is delivered at the
first attempt. The script remembers what it has been asked: how often each key was checked decides
the answer to the next check, and how often it was delivered decides when its errors are used up.

`MessageRelay.Scripted.Destination.ledger` gives the script's replies after a given past
(`MessageRelay.Scripted.Past`) as a table.
-/

namespace MessageRelay

namespace Scripted

/-- How the finality queries of one message are answered. -/
inductive FinalityScript where
  /-- So many negative answers, then positive ones. -/
  | after (negatives : Nat)
  /-- Negative answers only. -/
  | never
  /-- So many negative answers, then an error every time. -/
  | failAfter (negatives : Nat) (error : LedgerError)
deriving DecidableEq, Inhabited

/-- The script of one message. What is absent is as for all messages. -/
structure MessageScript where
  finality : Option FinalityScript := none
  queryDelay : Option Nat := none
  finalityTime : Option Nat := none
  relayStatus : Option UInt64 := none
  submitErrors : Option (List LedgerError) := none
  estimateError : Option LedgerError := none
  finalityTimeError : Option LedgerError := none
  /-- The caller dies when it checks the message after so many checks. -/
  deathAfter : Option Nat := none
deriving Inhabited

/-- A script for a destination ledger. All delays are whole milliseconds. -/
structure Destination where
  queryDelay : Nat := 0
  finalityTimeDelay : Nat := 0
  estimate : Except LedgerError UInt64 := .ok 100000
  estimateDelay : Nat := 0
  submitDelay : Nat := 0
  /-- The scripts of single messages. Of two scripts for one key, the later one counts in each
  part that it has. -/
  keys : List (MessageKey × MessageScript) := []
deriving Inhabited

/-- What a script has been asked. -/
structure Past where
  /-- The checks that were counted, by key. -/
  checks : List MessageKey := []
  /-- The limits that came with them, in order. -/
  gasLimits : List UInt64 := []
  /-- How often a finality time was looked up. -/
  lookups : Nat := 0
  /-- The deliveries that were attempted, by key. -/
  submissions : List MessageKey := []
  /-- The keys whose delivery succeeded, in order. -/
  relayed : List MessageKey := []
deriving Inhabited

namespace Destination

/-- The latest entry of a part of the scripts for a key. -/
def part {α : Type} (d : Destination) (key : MessageKey) (f : MessageScript → Option α) :
    Option α :=
  d.keys.foldl (fun found (k, s) => if k = key then (f s).or found else found) none

/-- How long a sleep from an instant lasts. -/
def sleep (start time : Nat) : Nat :=
  Clock.wake start time - start

/-- What a check is answered after `earlier` checks of the same key. -/
def checkAnswer (d : Destination) (key : MessageKey) (earlier : Nat) : Except LedgerError Bool :=
  match d.part key (·.finality) with
  | none => .ok true
  | some .never => .ok false
  | some (.after negatives) => .ok (negatives ≤ earlier)
  | some (.failAfter negatives error) => if negatives ≤ earlier then .error error else .ok false

/-- The identifier of the transaction of a delivery: the sequence number in eight bytes, the number
of the attempt in four, and the sender. -/
def transactionId (key : MessageKey) (attempt : Nat) : Hash :=
  ⟨Bytes.ofNat 8 key.sequence.toNat ++ Bytes.ofNat 4 attempt ++ key.sender.bytes, by
    simp [key.sender.length_bytes]⟩

/-- What a delivery is answered after `earlier` deliveries of the same key. -/
def submitAnswer (d : Destination) (key : MessageKey) (earlier : Nat) :
    Except LedgerError DestinationReceipt :=
  match ((d.part key (·.submitErrors)).getD [])[earlier]? with
  | some error => .error error
  | none => .ok ⟨transactionId key (earlier + 1), (d.part key (·.relayStatus)).getD successStatus⟩

/-- What the cost of a check is answered. -/
def estimateAnswer (d : Destination) (key : MessageKey) : Except LedgerError UInt64 :=
  match d.part key (·.estimateError) with
  | some error => .error error
  | none => d.estimate

/-- How long a check takes. -/
def checkDelay (d : Destination) (key : MessageKey) : Nat :=
  (d.part key (·.queryDelay)).getD d.queryDelay

/-- The script's replies after a past. The first call of each kind about a message follows on that
past, the second one on the first, and so on. -/
def ledger (d : Destination) (past : Past) : Ledger where
  estimate m start := .answer (sleep start d.estimateDelay) (d.estimateAnswer m.key)
  check m _ k start :=
    let earlier := past.checks.count m.key + (k - 1)
    if (d.part m.key (·.deathAfter)).any (· ≤ earlier) then .death 0
    else .answer (sleep start (d.checkDelay m.key)) (d.checkAnswer m.key earlier)
  finalityTime m start :=
    match d.part m.key (·.finalityTimeError) with
    | some error => .answer 0 (.error error)
    | none => .answer (sleep start d.finalityTimeDelay) (.ok (d.part m.key (·.finalityTime)))
  submit m k start :=
    .answer (sleep start d.submitDelay) (d.submitAnswer m.key (past.submissions.count m.key + k))

/-- The past after a call about a message. A check and a delivery count once they are answered, a
look-up counts when it starts, unless an error keeps it from the script. -/
def remember (d : Destination) (past : Past) (key : MessageKey) (c : LedgerCall) : Past :=
  match c.kind, c.answer with
  | .estimate, _ => past
  | .check gas, some _ =>
    { past with checks := past.checks ++ [key], gasLimits := past.gasLimits ++ [gas] }
  | .check _, none => past
  | .finalityTime, _ =>
    if (d.part key (·.finalityTimeError)).isSome then past
    else { past with lookups := past.lookups + 1 }
  | .submit, some (_, .receipt r) =>
    { past with
      submissions := past.submissions ++ [key]
      relayed := if r.status = successStatus then past.relayed ++ [key] else past.relayed }
  | .submit, some _ => { past with submissions := past.submissions ++ [key] }
  | .submit, none => past

end Destination

end Scripted

end MessageRelay
