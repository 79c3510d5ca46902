import MessageRelay.Ledger
import MessageRelay.Text.Lowercase

/-!
# Retrying a submission

An error that may clear is retried after a wait that grows with every attempt
(`MessageRelay.RetryPolicy.backoff?`). Whether it may clear is read off its text
(`MessageRelay.ErrorClass.ofText`): certain words make an error permanent, and a permanent error is
never retried. The words are looked for in lower case and anywhere in the text; where words of
several classes occur, the first class of the list permanent, underpriced, nonce conflict, transient
counts.
-/

namespace MessageRelay

/-! ### Classes of errors -/

/-- What can be hoped for after an error. -/
inductive ErrorClass where
  /-- The way to the node was disturbed or is overloaded. -/
  | transient
  /-- The fee is too low for the node. -/
  | underpriced
  /-- Another transaction of the account took the nonce. -/
  | nonceConflict
  /-- It will fail again. -/
  | permanent
  /-- Nothing is known. -/
  | unknown
deriving DecidableEq, Inhabited

namespace ErrorClass

/-- Whether another attempt makes sense. -/
def isRetryable : ErrorClass → Bool
  | permanent => false
  | _ => true

/-- The words that mark a class. -/
def markers : ErrorClass → List String
  | permanent =>
    ["reverted", "insufficient funds", "out of gas", "invalid parameters", "invalid signature"]
  | underpriced =>
    ["underpriced", "replacement transaction", "gas price too low", "max fee per gas less than"]
  | nonceConflict => ["nonce too low", "nonce too high", "already known"]
  | transient =>
    ["timeout", "timed out", "connection", "network", "rate limit", "too many requests", "503",
     "502", "temporarily unavailable"]
  | unknown => []

/-- The classes that have markers, the one that counts most first. -/
def ranking : List ErrorClass :=
  [permanent, underpriced, nonceConflict, transient]

/-- Whether one list of characters occurs in another. -/
def occursIn (needle : List Char) : List Char → Bool
  | [] => needle.isEmpty
  | c :: cs => needle.isPrefixOf (c :: cs) || occursIn needle cs

/-- Whether a marker of the class occurs in a text that is in lower case. -/
def isMarkedIn (c : ErrorClass) (lower : List Char) : Bool :=
  c.markers.any fun m => occursIn m.toList lower

/-- The class of an error's text. -/
def ofText (text : String) : ErrorClass :=
  let lower := Text.lowercaseChars text.toList
  (ranking.find? (·.isMarkedIn lower)).getD unknown

/-- The class of a ledger's error. -/
def of : LedgerError → ErrorClass
  | .transport _ => transient
  | .rpc text => ofText text
  | .invalidResponse _ | .missingReceipt _ => unknown

end ErrorClass

/-! ### The policy -/

/-- How often a submission is retried and how long the waits are. -/
structure RetryPolicy where
  /-- Attempts after the first one. -/
  maxRetries : UInt32 := 2
  /-- The wait behind the first attempt. -/
  initialBackoff : Duration := Duration.ofSecs 2
  /-- The longest wait. -/
  maxBackoff : Duration := Duration.ofSecs 30
  /-- How much longer each wait is than the one before. -/
  multiplier : Float := 2.0
deriving Inhabited

namespace RetryPolicy

/-- No second attempt. -/
def disabled : RetryPolicy :=
  { maxRetries := 0 }

/-- Whether there is another attempt after this many retries. -/
def allows (p : RetryPolicy) (retries : Nat) : Bool :=
  retries < p.maxRetries.toNat

/-- The product of `result` and the power of `base` to the binary numeral `exponent`, multiplying
up the squares of the base from the lowest digit on. -/
def powerLoop : (digits : Nat) → (exponent : Nat) → (base result : Float) → Float
  | 0, _, _, result => result
  | digits + 1, exponent, base, result =>
    let result := if exponent % 2 = 1 then result * base else result
    if exponent / 2 = 0 then result else powerLoop digits (exponent / 2) (base * base) result

/-- A power by repeated squaring. The exponent is a number of 32 bits of which the upper half counts
as negative; the power to a negative exponent is the reciprocal of the other one. -/
def power (base : Float) (exponent : UInt32) : Float :=
  if exponent.toNat < 0x80000000 then powerLoop 32 exponent.toNat base 1.0
  else 1.0 / powerLoop 32 (UInt32.size - exponent.toNat) base 1.0

/-- The lesser of two numbers; of a number and what is not one, the number. -/
def lesser (x y : Float) : Float :=
  if x.isNaN then y else if y < x then y else x

/-- The wait behind an attempt, counted from zero. It is absent when the growth leads out of the
range of durations. -/
def backoff? (p : RetryPolicy) (attempt : UInt32) : Option Duration :=
  let grown := p.initialBackoff.toSeconds * power p.multiplier attempt
  Duration.ofSeconds? (lesser grown p.maxBackoff.toSeconds)

end RetryPolicy

end MessageRelay
