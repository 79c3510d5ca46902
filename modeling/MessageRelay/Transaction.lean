import MessageRelay.Bytes

/-!
# Transactions

A transaction is asked for (`MessageRelay.TransactionRequest`) and then signed
(`MessageRelay.Transaction`). What is added on the way, such as the fee and the number of the chain,
is not told here.
-/

namespace MessageRelay

/-- A transaction to be submitted. -/
structure TransactionRequest where
  /-- Who sends it, if that is laid down. -/
  sender : Option Address := none
  /-- Whom it calls. -/
  recipient : Option Address := none
  /-- What it calls it with. -/
  input : Bytes := []
  /-- How much gas it may use, if that is laid down. -/
  gas : Option UInt64 := none
deriving DecidableEq, Inhabited

/-- A signed transaction. -/
structure Transaction where
  /-- The account that signed it. -/
  sender : Address
  /-- The contract that it calls; if it is absent, the transaction creates one. -/
  recipient : Option Address
  /-- What it calls the contract with. -/
  input : Bytes
deriving DecidableEq, Inhabited

/-- A transaction is signed by an account and says what was asked for. -/
def TransactionRequest.IsMetBy (request : TransactionRequest) (sender : Address)
    (tx : Transaction) : Prop :=
  tx.sender = sender ∧ tx.recipient = request.recipient ∧ tx.input = request.input

end MessageRelay
