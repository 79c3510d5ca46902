import MessageRelay.Json.Fields
import MessageRelay.Json.Reader
import MessageRelay.Provider
import MessageRelay.Stage

/-!
# The configuration of a network

A destination node can be asked where the contracts of its network are
(`MessageRelay.NetworkConfig.fetch`). That is how the message bus is found when it is not configured
(`MessageRelay.NetworkConfig.discover`); the zero address is none.

The answer is waited for no longer than half a minute and is read whatever its status is. It may
report an error, which counts even if there is a result beside it.
-/

namespace MessageRelay

open Rpc

/-- Where the contracts of a network are. -/
structure NetworkConfig where
  managementContract : Option Address := none
  messageBus : Option Address := none
  l2MessageBus : Option Address := none
deriving DecidableEq, Inhabited

namespace NetworkConfig

/-- Reads a configuration from an object or from an array, whose last elements may be missing. -/
def ofJson? (j : Json) : Option NetworkConfig := do
  let fields ←
    match j with
    | .object _ =>
      Json.fields? ["ManagementContractAddress", "MessageBusAddress", "L2MessageBusAddress"] j
    | .array es => if es.length ≤ 3 then some (es.map some) else none
    | _ => none
  let address := fun i => Json.optional? (Json.octets? 20) (fields[i]?.join)
  some
    { managementContract := ← address 0, messageBus := ← address 1, l2MessageBus := ← address 2 }

/-- The bus on the node's own ledger. -/
def ownBus (c : NetworkConfig) : Except LedgerError Address :=
  match c.l2MessageBus.filter (· != Octets.zero 20) with
  | some a => .ok a
  | none => .error (.invalidResponse "net_config did not report an L2MessageBusAddress")

/-- The error that a node reports, in words. -/
def reportText? (j : Json) : Option String := do
  let [code, message] ← Json.fields? ["code", "message"] j | none
  let code ← (← code).int? 0x80000000
  some (toString code ++ " - " ++ (← (← message).text?))

/-- What an answer says: an error report, or a configuration, or neither. -/
def readAnswer? (j : Json) : Option (Option String × Option NetworkConfig) := do
  let [result, report] ← Json.fields? ["result", "error"] j | none
  some (← Json.optional? reportText? report, ← Json.optional? ofJson? result)

/-- What a reply says. -/
def ofReply : Rpc.Reply → Except LedgerError NetworkConfig
  | .unreached text => .error (.transport text)
  | .response _ body =>
    match (Json.read? body).bind readAnswer? with
    | none => .error (.invalidResponse "error decoding response body")
    | some (some report, _) => .error (.rpc report)
    | some (none, some c) => .ok c
    | some (none, none) => .error (.invalidResponse "net_config returned no result")

/-- How long one waits for the answer. -/
def patience : Nat := 30000

/-- What becomes of asking a node that answers so. One that does not answer in time was not
reached. -/
def reply : Answer Rpc.Reply → MessageRelay.Reply NetworkConfig
  | .after delay answer =>
    if delay < patience then .answer delay (ofReply answer)
    else .answer patience (.error (.transport "timed out"))
  | .never => .answer patience (.error (.transport "timed out"))

/-- Asks a node for the configuration of its network. -/
def fetch (answer : Answer Rpc.Reply) : Stage LedgerError NetworkConfig :=
  Stage.perform .askedNetwork (reply answer)

/-- Asks a node for the bus on its ledger. -/
def discover (answer : Answer Rpc.Reply) : Stage LedgerError Address := do
  let c ← fetch answer
  Stage.ofExcept c.ownBus

end NetworkConfig

end MessageRelay
