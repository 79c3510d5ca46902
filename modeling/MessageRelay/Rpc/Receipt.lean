import MessageRelay.Json.Fields
import MessageRelay.Receipt
import MessageRelay.Rpc.Quantity

/-!
# Receipts from nodes

How a node writes a log entry (`MessageRelay.Log.ofNode?`) and a receipt
(`MessageRelay.TransactionReceipt.ofNode?`). Both have more fields than this library needs; those
that every node writes have to be there and in order all the same. The place of an entry in its
block is `null` as long as it has none.

A receipt has a status of zero or one. One from before there was a status has the root of the state
in its stead and counts as a success.
-/

namespace MessageRelay

open Rpc

namespace Rpc

/-- A field that must be there, though it may be `null`. -/
def nullable? {α : Type} (read : Json → Option α) : Option Json → Option (Option α)
  | none => none
  | some .null => some none
  | some j => (read j).map some

/-- A truth value. -/
def flag? : Json → Option Bool
  | .bool b => some b
  | _ => none

end Rpc

/-- Reads a log entry. -/
def Log.ofNode? (j : Json) : Option Log := do
  let .object _ := j | none
  guard j.isStorable
  let [address, topics, data, index, blockHash, block, time, tx, txIndex, removed] ← Json.fields?
    ["address", "topics", "data", "logIndex", "blockHash", "blockNumber", "blockTimestamp",
     "transactionHash", "transactionIndex", "removed"] j | none
  let address ← Json.octets? 20 (← address)
  let topics ← (← (← topics).elements?).mapM (Json.octets? 32)
  let data ← Json.bytes? (← data)
  let index ← nullable? word64? index
  let _ ← Json.optional? (Json.octets? 32) blockHash
  let _ ← nullable? word64? block
  let _ ← Json.optional? word64? time
  let _ ← Json.optional? (Json.octets? 32) tx
  let _ ← nullable? word64? txIndex
  let _ ← removed.elim (some false) flag?
  some { address, topics, data, index }

namespace TransactionReceipt

/-- Whether the kind of a transaction is known. It is written as a text or as a number. -/
def isKnownKind : Json → Bool
  | .string s =>
    ["0x0", "0x00", "0x1", "0x01", "0x2", "0x02", "0x3", "0x03", "0x4", "0x04"].contains s
  | j => (j.nat? 5).isSome

/-- Whether a transaction succeeded, by the status of its receipt or by the root of the state. -/
def success? (status root : Option Json) : Option Bool :=
  match status.bind (quantity? 2) with
  | some n => some (n == 1)
  | none => (root.bind (Json.octets? 32)).map fun _ => true

/-- Whether a document is the consent of an account to act by a contract's code. -/
def isAuthorization (j : Json) : Bool :=
  let fields := Json.fields? ["chainId", "address", "nonce", "yParity", "r", "s"] j
  match fields with
  | some [some chain, some address, some nonce, some parity, some r, some s] =>
    (quantity? (Octets.count 32) chain).isSome && (Json.octets? 20 address).isSome
      && (word64? nonce).isSome && (quantity? 256 parity).isSome
      && (quantity? (Octets.count 32) r).isSome && (quantity? (Octets.count 32) s).isSome
  | _ => false

/-- Reads a receipt. -/
def ofNode? (j : Json) : Option TransactionReceipt := do
  let .object _ := j | none
  guard j.isStorable
  let [kind, status, root, gas, logs, bloom] ← Json.fields?
    ["type", "status", "root", "cumulativeGasUsed", "logs", "logsBloom"] j | none
  guard (isKnownKind (← kind))
  let succeeded ← success? status root
  let _ ← quantity? (Octets.count 16) (← gas)
  let logs ← (← (← logs).elements?).mapM Log.ofNode?
  let _ ← Json.octets? 256 (← bloom)
  let [tx, txIndex, blockHash, block, used, price] ← Json.fields?
    ["transactionHash", "transactionIndex", "blockHash", "blockNumber", "gasUsed",
     "effectiveGasPrice"] j | none
  let transaction ← Json.octets? 32 (← tx)
  let _ ← Json.optional? word64? txIndex
  let _ ← Json.optional? (Json.octets? 32) blockHash
  let _ ← Json.optional? word64? block
  let _ ← quantity? (Octets.count 16) (← used)
  let _ ← quantity? (Octets.count 16) (← price)
  let [blobGas, blobPrice, sender, recipient, contract, consents] ← Json.fields?
    ["blobGasUsed", "blobGasPrice", "from", "to", "contractAddress", "authorizationList"] j | none
  let _ ← Json.optional? (quantity? (Octets.count 16)) blobGas
  let _ ← Json.optional? (quantity? (Octets.count 16)) blobPrice
  let _ ← Json.octets? 20 (← sender)
  let _ ← Json.optional? (Json.octets? 20) recipient
  let _ ← Json.optional? (Json.octets? 20) contract
  let consents ← Json.optional? Json.elements? consents
  guard ((consents.getD []).all isAuthorization)
  some { transaction, succeeded, logs }

end TransactionReceipt

end MessageRelay
